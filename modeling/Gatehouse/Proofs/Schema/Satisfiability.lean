import Gatehouse.Proofs.Schema.Grammar
/-!
Schemas that some value satisfies.

A schema can be such that no value satisfies it: its type is unknown, or it is an object that must
have a field without a schema, or one with a schema that no value satisfies. Nothing else can go
wrong, since an array may be empty and an optional field may be absent.

    schema.HasValue  ↔  schema.satisfiable                        (hasValue_iff_satisfiable)
    (∀ value, schema.accepts value = false)  ↔
      required fields alone lead to an unknown type, or to an object that requires a field
      which it does not declare

`satisfiable` is computed. Where it holds, `sample` is a value that the schema accepts.
-/

namespace Gatehouse.Schema

open Fields (names get?)

/-! ## Which schemas have a value -/

mutual

/-- Every required name has a property, with a schema that is satisfiable; no type is unknown. The
items of an array do not matter, and neither do properties that are not required. -/
def satisfiable : Schema → Bool
  | .string => true
  | .integer => true
  | .unrecognized _ => false
  | .array _ => true
  | .object required properties => required.all fun name => satisfiableUnder properties name

/-- The property of the name is there, with a schema that is satisfiable. -/
def satisfiableUnder : List (String × Schema) → String → Bool
  | [], _ => false
  | (k, schema) :: rest, name =>
    if k = name then satisfiable schema else satisfiableUnder rest name

end

mutual

/-- A value with no more in it than the schema asks for. -/
def sample : Schema → Json
  | .string => .string ""
  | .integer => .number (.whole 0)
  | .unrecognized _ => .null
  | .array _ => .array []
  | .object required properties => .object (sampleFields required properties)

/-- Fields for the properties that are required. -/
def sampleFields : List String → List (String × Schema) → List (String × Json)
  | _, [] => []
  | required, (name, schema) :: rest =>
    if name ∈ required then (name, sample schema) :: sampleFields required rest
    else sampleFields required rest

end

/-- Some value satisfies the schema. No object in it has a name twice. -/
def HasValue (schema : Schema) : Prop :=
  ∃ value : Json, value.Distinct ∧ schema.accepts value = true

/-- Required fields alone lead from the first schema to the second. -/
inductive Needs : Schema → Schema → Prop
  | refl (schema : Schema) : Needs schema schema
  | field {required : List String} {properties : List (String × Schema)} {name : String}
      {inner sub : Schema} :
      name ∈ required → get? properties name = some inner → Needs inner sub →
      Needs (.object required properties) sub

/-- The schema itself is at fault if no value satisfies it: its type is unknown, or it requires a
field without a schema. -/
inductive Faulty : Schema → Prop
  | unrecognized (typeName : String) : Faulty (.unrecognized typeName)
  | undeclared {required : List String} {properties : List (String × Schema)} {name : String} :
      name ∈ required → name ∉ names properties → Faulty (.object required properties)

/-! ## Lemmas: required properties -/

theorem satisfiableUnder_iff {properties : List (String × Schema)} {name : String} :
    satisfiableUnder properties name = true ↔
      ∃ schema, get? properties name = some schema ∧ schema.satisfiable = true := by
  induction properties with
  | nil => simp [satisfiableUnder]
  | cons p rest ih =>
    obtain ⟨k, schema⟩ := p
    by_cases hk : k = name
    · simp [satisfiableUnder, get?, hk]
    · simp [satisfiableUnder, get?, hk, ih]

theorem satisfiable_object_iff {required : List String} {properties : List (String × Schema)} :
    (Schema.object required properties).satisfiable = true ↔
      ∀ name ∈ required, ∃ schema, get? properties name = some schema ∧
        schema.satisfiable = true := by
  simp only [satisfiable, List.all_eq_true, satisfiableUnder_iff]

/-- A property that is not required makes no difference. -/
theorem satisfiable_allow {shape : Shape} {name : String} (h : name ∉ shape.required)
    (schema : Schema) :
    (shape.allow name schema).toSchema.satisfiable = true ↔ shape.toSchema.satisfiable = true := by
  have hsame : ∀ other ∈ shape.required,
      get? (Fields.putSorted shape.properties name schema) other = get? shape.properties other := by
    intro other hother
    rw [Fields.get?_putSorted, if_neg]
    rintro rfl
    exact h hother
  show (Schema.object shape.required (Fields.putSorted shape.properties name schema)).satisfiable =
      true ↔ (Schema.object shape.required shape.properties).satisfiable = true
  rw [satisfiable_object_iff, satisfiable_object_iff]
  exact forall₂_congr fun other hother => by rw [hsame other hother]

/-! ## Lemmas: samples -/

theorem get?_sampleFields (required : List String) (properties : List (String × Schema))
    (name : String) :
    get? (sampleFields required properties) name =
      if name ∈ required then (get? properties name).map sample else none := by
  induction properties with
  | nil => simp [sampleFields]
  | cons p rest ih =>
    obtain ⟨k, schema⟩ := p
    unfold sampleFields
    by_cases hk : k = name
    · subst hk
      by_cases hmem : k ∈ required
      · simp [get?, hmem]
      · rw [if_neg hmem, ih, if_neg hmem, if_neg hmem]
    · have hget : get? ((k, schema) :: rest) name = get? rest name := by
        rw [get?, if_neg hk]
      rw [hget, ← ih]
      split
      · rw [get?, if_neg hk]
      · rfl

theorem names_sampleFields_sublist (required : List String) (properties : List (String × Schema)) :
    (names (sampleFields required properties)).Sublist (names properties) := by
  induction properties with
  | nil => exact List.Sublist.refl []
  | cons p rest ih =>
    obtain ⟨k, schema⟩ := p
    unfold sampleFields
    split
    · exact ih.cons_cons k
    · exact ih.cons k

/-- A sample has no name twice, whether the schema accepts it or not. -/
theorem distinct_sample {schema : Schema} (h : schema.WellFormed) : schema.sample.Distinct := by
  induction h with
  | string => exact .string ""
  | integer => exact .number (.whole 0)
  | unrecognized typeName => exact .null
  | array _ _ => exact .array fun _ hvalue => nomatch hvalue
  | @object required properties hsorted _ ih =>
    have hnodup : (names (sampleFields required properties)).Nodup :=
      hsorted.nodup.sublist (names_sampleFields_sublist required properties)
    refine .object hnodup ?_
    rintro ⟨name, value⟩ hfield
    have hget := (Fields.get?_eq_some_iff_mem_of_nodup hnodup).mpr hfield
    rw [get?_sampleFields] at hget
    split at hget
    · obtain ⟨sub, hsub, rfl⟩ := Option.map_eq_some_iff.mp hget
      exact ih (name, sub) (Fields.mem_of_get? hsub)
    · cases hget

/-- A sample of a satisfiable schema satisfies it. Of the properties, it has those that are
required, and no others. -/
theorem accepts_sample {schema : Schema} (h : schema.WellFormed)
    (hsat : schema.satisfiable = true) : schema.accepts schema.sample = true := by
  induction h with
  | string => rfl
  | integer => rfl
  | unrecognized typeName => cases hsat
  | array _ _ => rfl
  | @object required properties hsorted _ ih =>
    have hall := satisfiable_object_iff.mp hsat
    refine (accepts_object_iff hsorted _).mpr ⟨?_, ?_⟩
    · intro name hname
      obtain ⟨sub, hsub, -⟩ := hall name hname
      refine Fields.mem_names_iff.mpr ⟨sub.sample, ?_⟩
      rw [get?_sampleFields, if_pos hname, hsub]
      rfl
    · intro name value hvalue
      rw [get?_sampleFields] at hvalue
      split at hvalue
      · next hname =>
        obtain ⟨sub, hsub, hsubsat⟩ := hall name hname
        rw [hsub] at hvalue
        obtain rfl := Option.some.inj hvalue
        exact ⟨sub, hsub, ih (name, sub) (Fields.mem_of_get? hsub) hsubsat⟩
      · cases hvalue

/-- Only a satisfiable schema accepts a value: a required field is there, so the schema that accepts
it is there too. -/
theorem satisfiable_of_accepts {schema : Schema} (h : schema.WellFormed) {value : Json}
    (haccepts : schema.accepts value = true) : schema.satisfiable = true := by
  induction h generalizing value with
  | string => rfl
  | integer => rfl
  | unrecognized typeName => simp [accepts] at haccepts
  | array _ _ => rfl
  | @object required properties hsorted _ ih =>
    obtain ⟨fields, rfl⟩ := exists_object_of_accepts haccepts
    obtain ⟨hrequired, hfields⟩ := (accepts_object_iff hsorted fields).mp haccepts
    refine satisfiable_object_iff.mpr fun name hname => ?_
    obtain ⟨inner, hinner⟩ := Fields.mem_names_iff.mp (hrequired name hname)
    obtain ⟨sub, hsub, hsubaccepts⟩ := hfields name inner hinner
    exact ⟨sub, hsub, ih (name, sub) (Fields.mem_of_get? hsub) hsubaccepts⟩

theorem hasValue_iff {schema : Schema} (h : schema.WellFormed) :
    schema.HasValue ↔ schema.satisfiable = true := by
  constructor
  · rintro ⟨value, -, haccepts⟩
    exact satisfiable_of_accepts h haccepts
  · intro hsat
    exact ⟨schema.sample, distinct_sample h, accepts_sample h hsat⟩

theorem forall_refuses_iff {schema : Schema} (h : schema.WellFormed) :
    (∀ value, schema.accepts value = false) ↔ schema.satisfiable = false := by
  constructor
  · intro hrefuses
    apply eq_false_of_ne_true
    intro hsat
    have haccepts := accepts_sample h hsat
    rw [hrefuses] at haccepts
    cases haccepts
  · intro hsat value
    apply eq_false_of_ne_true
    intro haccepts
    rw [satisfiable_of_accepts h haccepts] at hsat
    cases hsat

/-! ## Lemmas: what is at fault -/

theorem Faulty.not_satisfiable {schema : Schema} (h : schema.Faulty) :
    schema.satisfiable = false := by
  apply eq_false_of_ne_true
  intro hsat
  cases h with
  | unrecognized typeName => cases hsat
  | undeclared hrequired hundeclared =>
    obtain ⟨sub, hsub, -⟩ := satisfiable_object_iff.mp hsat _ hrequired
    exact hundeclared (Fields.mem_names_iff.mpr ⟨sub, hsub⟩)

/-- What cannot be satisfied makes all that needs it unsatisfiable. -/
theorem Needs.not_satisfiable {schema sub : Schema} (h : schema.Needs sub)
    (hsub : sub.satisfiable = false) : schema.satisfiable = false := by
  induction h with
  | refl schema => exact hsub
  | field hrequired hinner _ ih =>
    have hfalse := ih hsub
    apply eq_false_of_ne_true
    intro hsat
    obtain ⟨inner', hinner', hinnersat⟩ := satisfiable_object_iff.mp hsat _ hrequired
    obtain rfl := Option.some.inj (hinner.symm.trans hinner')
    rw [hfalse] at hinnersat
    cases hinnersat

/-- What is not satisfiable needs something that is at fault. The induction goes down through
required fields. -/
theorem exists_faulty {schema : Schema} (h : schema.WellFormed)
    (hsat : schema.satisfiable = false) : ∃ sub, schema.Needs sub ∧ sub.Faulty := by
  induction h with
  | string => cases hsat
  | integer => cases hsat
  | unrecognized typeName => exact ⟨_, .refl _, .unrecognized typeName⟩
  | array _ _ => cases hsat
  | @object required properties _ _ ih =>
    have hnot : ¬(Schema.object required properties).satisfiable = true := by
      rw [hsat]
      exact Bool.false_ne_true
    rw [satisfiable_object_iff] at hnot
    push Not at hnot
    obtain ⟨name, hname, hbad⟩ := hnot
    cases hget : get? properties name with
    | none => exact ⟨_, .refl _, .undeclared hname (Fields.get?_eq_none_iff.mp hget)⟩
    | some inner =>
      have hinner : inner.satisfiable = false := eq_false_of_ne_true (hbad inner hget)
      obtain ⟨sub, hneeds, hfaulty⟩ := ih (name, inner) (Fields.mem_of_get? hget) hinner
      exact ⟨sub, .field hname hget hneeds, hfaulty⟩

/-! ## The theorem -/

/-- **Which schemas have a value.** Some value satisfies a schema iff it is satisfiable. All values
are refused iff required fields lead to what is at fault; items and optional properties, even if
nothing satisfies them, do no harm. -/
theorem hasValue_iff_satisfiable (schema : Schema) (h : schema.WellFormed) :
    (schema.HasValue ↔ schema.satisfiable = true) ∧
    ((∀ value, schema.accepts value = false) ↔ ∃ sub, schema.Needs sub ∧ sub.Faulty) ∧
    (Schema.array schema).HasValue ∧
    ∀ shape : Shape, shape.toSchema.WellFormed → ∀ name, name ∉ shape.required →
      ((shape.allow name schema).toSchema.HasValue ↔ shape.toSchema.HasValue) := by
  refine ⟨hasValue_iff h, ?_, ?_, ?_⟩
  · rw [forall_refuses_iff h]
    constructor
    · intro hsat
      exact exists_faulty h hsat
    · rintro ⟨sub, hneeds, hfaulty⟩
      exact hneeds.not_satisfiable hfaulty.not_satisfiable
  · exact (hasValue_iff (.array h)).mpr rfl
  · intro shape hshape name hname
    rw [hasValue_iff (wellFormed_allow hshape name h), hasValue_iff hshape, satisfiable_allow hname]

/-- An order. It has a buyer, whose address is of an unknown type, and maybe tags of such a type. -/
def order (buyerRequires : List String) : Schema :=
  .object ["buyer", "buyer"]
    [("buyer", .object buyerRequires [("address", .unrecognized "point")]),
      ("tags", .array (.unrecognized "tag"))]

/-- No value is an order if the address is required. If it is optional, there are orders, and they
may have one more field, whatever is asked of it. -/
theorem hasValue_order :
    (order ["address"]).WellFormed ∧ (∀ value, (order ["address"]).accepts value = false) ∧
    (order []).WellFormed ∧ (order []).HasValue ∧
    ((Shape.allow ⟨["note"], [("note", .string)]⟩ "order" (order ["address"])).toSchema.HasValue ↔
      (Shape.toSchema ⟨["note"], [("note", .string)]⟩).HasValue) := by
  have hstrict : (order ["address"]).WellFormed := by decide
  have hlenient : (order []).WellFormed := by decide
  have hnote : (Shape.toSchema ⟨["note"], [("note", .string)]⟩).WellFormed := by decide
  have hneeds : (order ["address"]).Needs (.unrecognized "point") :=
    .field (by decide : "buyer" ∈ ["buyer", "buyer"]) rfl
      (.field (by decide : "address" ∈ ["address"]) rfl (.refl _))
  obtain ⟨-, hrefuses, -, hallow⟩ := hasValue_iff_satisfiable (order ["address"]) hstrict
  refine ⟨hstrict, ?_, hlenient, ?_, ?_⟩
  · exact hrefuses.mpr ⟨_, hneeds, .unrecognized "point"⟩
  · exact (hasValue_iff_satisfiable (order []) hlenient).1.mpr (by decide)
  · exact hallow _ hnote "order" (by decide)

end Gatehouse.Schema
