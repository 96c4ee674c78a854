import Gatehouse.Proofs.Lists.Last
import Gatehouse.Proofs.Schema.Positions
/-!
Object schemas that are built step by step.

Each step declares one property, required or optional, and a name may be declared any number of
times. What was required once stays required, and the last schema of a name replaces the others:

    (Shape.build declarations).toSchema accepts the objects in which
      every name is there that was ever required,
      every name was declared, and
      its value satisfies the schema that was declared last for it         (accepts_build)

`Shape.Tells` says what a shape knows about the steps that led to it. Every step keeps it
(`Shape.Tells.declare`), so it holds of every run (`Shape.tells_build`).
-/

namespace Gatehouse.Schema

open Fields (Sorted names get?)

/-! ## Runs of declarations -/

/-- A property that is declared, with its schema. -/
structure Declaration where
  name : String
  schema : Schema
  isRequired : Bool

namespace Shape

/-- Declares one more property. -/
def declare (shape : Shape) (declaration : Declaration) : Shape :=
  if declaration.isRequired then shape.require declaration.name declaration.schema
  else shape.allow declaration.name declaration.schema

/-- The shape that is built by declarations, one after the other. -/
def build (declarations : List Declaration) : Shape :=
  declarations.foldl declare empty

/-- The shape knows which names were ever required, and the last schema of each name. -/
structure Tells (declarations : List Declaration) (shape : Shape) : Prop where
  sorted : Sorted shape.properties
  required : ∀ name, name ∈ shape.required ↔
    ∃ d ∈ declarations, d.isRequired = true ∧ d.name = name
  properties : ∀ name schema, get? shape.properties name = some schema ↔
    ∃ d, IsLast (fun d => d.name = name) declarations d ∧ d.schema = schema

/-! ## Lemmas: one step -/

/-- Both kinds of step set the property; what was declared before for the name is lost. -/
theorem properties_declare (shape : Shape) (d : Declaration) :
    (shape.declare d).properties = Fields.putSorted shape.properties d.name d.schema := by
  unfold declare
  split <;> rfl

/-- No step takes a required name away. -/
theorem mem_required_declare {shape : Shape} {d : Declaration} {name : String} :
    name ∈ (shape.declare d).required ↔
      name ∈ shape.required ∨ d.isRequired = true ∧ d.name = name := by
  unfold declare
  by_cases hd : d.isRequired = true
  · rw [if_pos hd]
    show name ∈ shape.required ++ [d.name] ↔ _
    rw [List.mem_append, List.mem_singleton]
    constructor
    · rintro (h | rfl)
      · exact .inl h
      · exact .inr ⟨hd, rfl⟩
    · rintro (h | ⟨-, rfl⟩)
      · exact .inl h
      · exact .inr rfl
  · rw [if_neg hd]
    show name ∈ shape.required ↔ _
    constructor
    · exact .inl
    · rintro (h | ⟨h, -⟩)
      · exact h
      · exact absurd h hd

/-- A step takes what the shape knows over to one more declaration. -/
theorem Tells.declare {declarations : List Declaration} {shape : Shape}
    (h : Tells declarations shape) (d : Declaration) :
    Tells (declarations ++ [d]) (shape.declare d) := by
  constructor
  case sorted =>
    rw [properties_declare]
    exact Fields.pairwise_putSorted h.sorted d.name d.schema
  case required =>
    intro name
    rw [mem_required_declare, h.required name]
    constructor
    · rintro (⟨d', hd', hrequired⟩ | hrequired)
      · exact ⟨d', List.mem_append_left _ hd', hrequired⟩
      · exact ⟨d, List.mem_append_right _ List.mem_cons_self, hrequired⟩
    · rintro ⟨d', hd', hrequired⟩
      rcases List.mem_append.mp hd' with hd' | hd'
      · exact .inl ⟨d', hd', hrequired⟩
      · obtain rfl := List.mem_singleton.mp hd'
        exact .inr hrequired
  case properties =>
    intro name schema
    rw [properties_declare, Fields.get?_putSorted]
    simp only [isLast_concat_iff]
    by_cases hname : d.name = name
    · -- the new declaration is the last for its name
      simp only [if_pos hname, Option.some.injEq]
      constructor
      · intro hschema
        exact ⟨d, rfl, hschema⟩
      · rintro ⟨d', rfl, hschema⟩
        exact hschema
    · simp only [if_neg hname]
      exact h.properties name schema

/-! ## Lemmas: all steps -/

theorem build_concat (declarations : List Declaration) (d : Declaration) :
    build (declarations ++ [d]) = (build declarations).declare d := by
  unfold build
  rw [List.foldl_append]
  rfl

/-- What is built knows about all declarations. The induction takes the last one off, which is the
one that counts. -/
theorem tells_build (declarations : List Declaration) : Tells declarations (build declarations) := by
  induction declarations using List.reverseRecOn with
  | nil =>
    refine ⟨List.Pairwise.nil, fun name => ?_, fun name schema => ?_⟩
    · simp [build, empty]
    · constructor
      · intro hget
        cases hget
      · rintro ⟨d, hlast, -⟩
        exact absurd hlast not_isLast_nil
  | append_singleton declarations d ih =>
    rw [build_concat]
    exact ih.declare d

/-- A property has a schema iff its name was declared. -/
theorem Tells.mem_names_iff {declarations : List Declaration} {shape : Shape}
    (h : Tells declarations shape) {name : String} :
    name ∈ names shape.properties ↔ ∃ d ∈ declarations, d.name = name := by
  rw [Fields.mem_names_iff, ← exists_isLast_iff]
  constructor
  · rintro ⟨schema, hschema⟩
    obtain ⟨d, hlast, -⟩ := (h.properties name schema).mp hschema
    exact ⟨d, hlast⟩
  · rintro ⟨d, hlast⟩
    exact ⟨d.schema, (h.properties name d.schema).mpr ⟨d, hlast, rfl⟩⟩

end Shape

/-! ## The theorem -/

/-- **Building step by step.** What is built accepts the objects that have every name that was ever
required, and no name that was not declared, with values that satisfy the schema declared last. -/
theorem accepts_build (declarations : List Declaration) (value : Json) :
    (Shape.build declarations).toSchema.accepts value = true ↔
      ∃ fields, value = .object fields ∧
        (∀ d ∈ declarations, d.isRequired = true → d.name ∈ names fields) ∧
        (∀ name ∈ names fields, ∃ d ∈ declarations, d.name = name) ∧
        ∀ name inner, get? fields name = some inner →
          ∀ d, IsLast (fun d => d.name = name) declarations d → d.schema.accepts inner = true := by
  have htells := Shape.tells_build declarations
  constructor
  · intro haccepts
    obtain ⟨fields, rfl⟩ := exists_object_of_accepts haccepts
    obtain ⟨hrequired, hfields⟩ := (accepts_object_iff htells.sorted fields).mp haccepts
    refine ⟨fields, rfl, ?_, ?_, ?_⟩
    · intro d hd hmust
      exact hrequired d.name ((htells.required d.name).mpr ⟨d, hd, hmust, rfl⟩)
    · intro name hname
      obtain ⟨inner, hinner⟩ := Fields.mem_names_iff.mp hname
      obtain ⟨schema, hschema, -⟩ := hfields name inner hinner
      exact htells.mem_names_iff.mp (Fields.mem_names_iff.mpr ⟨schema, hschema⟩)
    · intro name inner hinner d hlast
      obtain ⟨schema, hschema, hinneraccepts⟩ := hfields name inner hinner
      have hd := (htells.properties name d.schema).mpr ⟨d, hlast, rfl⟩
      obtain rfl := Option.some.inj (hschema.symm.trans hd)
      exact hinneraccepts
  · rintro ⟨fields, rfl, hrequired, hdeclared, hfields⟩
    refine (accepts_object_iff htells.sorted fields).mpr ⟨?_, ?_⟩
    · intro name hname
      obtain ⟨d, hd, hmust, rfl⟩ := (htells.required name).mp hname
      exact hrequired d hd hmust
    · intro name inner hinner
      have hname := hdeclared name (Fields.mem_names_iff.mpr ⟨inner, hinner⟩)
      obtain ⟨d, hlast⟩ := exists_isLast_iff.mpr hname
      exact ⟨d.schema, (htells.properties name d.schema).mpr ⟨d, hlast, rfl⟩,
        hfields name inner hinner d hlast⟩

/-- A name that was required stays so when it is declared again as optional, with another schema. -/
example :
    let schema := (Shape.build [⟨"id", .string, true⟩, ⟨"id", .integer, false⟩]).toSchema
    schema.accepts (.object []) = false ∧
      schema.accepts (.object [("id", .string "a")]) = false ∧
      schema.accepts (.object [("id", .number (.whole 1))]) = true := by
  decide

end Gatehouse.Schema
