import Gatehouse.Proofs.Schema.WellFormed
/-!
Acceptance, position by position.

A path of steps leads to a position inside a value, and the same path leads through a schema: an
item of an array to the schema of its items, a field of an object to the property of its name.
What a schema asks of one value alone is `Schema.Fits`; it never looks inside the value, the
names of the fields of an object aside.

    schema.accepts value  ↔  every path to a value inside leads to a schema
                             that the value fits             (accepts_iff_forall_position)

The one-step form is `accepts_iff_forall_step`, which joins the walk over the properties of an
object schema, done name by name, with the fields that a value has.
-/

namespace Gatehouse

/-! ## Paths -/

/-- One step inside: to an item of an array, or to a field of an object. -/
inductive Step where
  | item (index : Nat)
  | field (name : String)
  deriving Repr, DecidableEq

/-- The value one step inside a value. -/
def Json.step? : Json → Step → Option Json
  | .array items, .item index => items[index]?
  | .object fields, .field name => Fields.get? fields name
  | _, _ => none

/-- The value at the end of a path. -/
def Json.at? : Json → List Step → Option Json
  | value, [] => some value
  | value, step :: path =>
    match value.step? step with
    | none => none
    | some inner => inner.at? path

/-- The schema for what is one step inside. -/
def Schema.step? : Schema → Step → Option Schema
  | .array items, .item _ => some items
  | .object _ properties, .field name => Fields.get? properties name
  | _, _ => none

/-- The schema for what is at the end of a path. -/
def Schema.at? : Schema → List Step → Option Schema
  | schema, [] => some schema
  | schema, step :: path =>
    match schema.step? step with
    | none => none
    | some inner => inner.at? path

/-- What a schema asks of a value alone, whatever the items and fields are. -/
def Schema.Fits : Schema → Json → Prop
  | .string, value => ∃ s, value = .string s
  | .integer, value => value.isIntegerLike = true
  | .unrecognized _, _ => False
  | .array _, value => ∃ items, value = .array items
  | .object required _, value =>
    ∃ fields, value = .object fields ∧ ∀ name ∈ required, name ∈ Fields.names fields

namespace Schema

/-! ## Lemmas: one step -/

theorem step?_eq_none_of_integerLike {value : Json} (h : value.isIntegerLike = true)
    (step : Step) : value.step? step = none := by
  cases value with
  | number n => rfl
  | string s => rfl
  | null => cases h
  | bool b => cases h
  | array items => cases h
  | object fields => cases h

theorem acceptsPresent_iff {properties : List (String × Schema)}
    {fields : List (String × Json)} :
    acceptsPresent properties fields = true ↔
      ∀ p ∈ properties, ∀ value, Fields.get? fields p.1 = some value →
        p.2.accepts value = true := by
  induction properties with
  | nil => simp [acceptsPresent]
  | cons p rest ih =>
    obtain ⟨name, schema⟩ := p
    simp only [acceptsPresent, Bool.and_eq_true, ih, List.mem_cons, forall_eq_or_imp]
    cases Fields.get? fields name <;> simp

/-- What an object schema checks: the required fields are there, all fields are declared, and each
property accepts the field of its name. -/
theorem accepts_object_iff_checks {required : List String} {properties : List (String × Schema)}
    {fields : List (String × Json)} :
    (Schema.object required properties).accepts (.object fields) = true ↔
      (∀ name ∈ required, name ∈ Fields.names fields) ∧
      (∀ name ∈ Fields.names fields, name ∈ Fields.names properties) ∧
      ∀ p ∈ properties, ∀ value, Fields.get? fields p.1 = some value →
        p.2.accepts value = true := by
  simp only [accepts, Bool.and_eq_true, Bool.not_eq_true', Fields.hasAll_iff,
    Fields.hasUndeclared_eq_false_iff, acceptsPresent_iff]

/-- An object schema accepts the objects that have the required fields, and whose fields all have
a property that accepts them. -/
theorem accepts_object_iff {required : List String} {properties : List (String × Schema)}
    (h : Fields.Sorted properties) (fields : List (String × Json)) :
    (Schema.object required properties).accepts (.object fields) = true ↔
      (∀ name ∈ required, name ∈ Fields.names fields) ∧
      ∀ name value, Fields.get? fields name = some value →
        ∃ schema, Fields.get? properties name = some schema ∧ schema.accepts value = true := by
  rw [accepts_object_iff_checks]
  constructor
  · rintro ⟨hrequired, hdeclared, hpresent⟩
    refine ⟨hrequired, fun name value hvalue => ?_⟩
    obtain ⟨schema, hschema⟩ := Fields.mem_names_iff.mp
      (hdeclared name (Fields.mem_names_iff.mpr ⟨value, hvalue⟩))
    exact ⟨schema, hschema, hpresent (name, schema) (Fields.mem_of_get? hschema) value hvalue⟩
  · rintro ⟨hrequired, hfields⟩
    refine ⟨hrequired, fun name hname => ?_, fun p hp value hvalue => ?_⟩
    · obtain ⟨value, hvalue⟩ := Fields.mem_names_iff.mp hname
      obtain ⟨schema, hschema, -⟩ := hfields name value hvalue
      exact Fields.mem_names_iff.mpr ⟨schema, hschema⟩
    · -- the property that the walk visits is the one that the name is read by
      obtain ⟨schema, hschema, haccepts⟩ := hfields p.1 value hvalue
      rw [(Fields.get?_eq_some_iff_mem h).mpr hp] at hschema
      obtain rfl := Option.some.inj hschema
      exact haccepts

theorem accepts_array_iff {items : Schema} {values : List Json} :
    (Schema.array items).accepts (.array values) = true ↔
      ∀ (index : Nat) value, values[index]? = some value → items.accepts value = true := by
  simp only [accepts, List.all_eq_true, List.mem_iff_getElem?]
  constructor
  · intro h index value hvalue
    exact h value ⟨index, hvalue⟩
  · rintro h value ⟨index, hvalue⟩
    exact h index value hvalue

theorem isString_iff {value : Json} : value.isString = true ↔ ∃ s, value = .string s := by
  cases value <;> simp [Json.isString]

theorem exists_array_of_accepts {items : Schema} {value : Json}
    (h : (Schema.array items).accepts value = true) : ∃ values, value = .array values := by
  cases value <;> simp [accepts] at h
  exact ⟨_, rfl⟩

theorem exists_object_of_accepts {required : List String} {properties : List (String × Schema)}
    {value : Json} (h : (Schema.object required properties).accepts value = true) :
    ∃ fields, value = .object fields := by
  cases value <;> simp [accepts] at h
  exact ⟨_, rfl⟩

/-- **One step.** A value is accepted if it fits, and if all that is one step inside it is
accepted by the schema one step inside. -/
theorem accepts_iff_forall_step {schema : Schema} (h : schema.WellFormed) (value : Json) :
    schema.accepts value = true ↔
      schema.Fits value ∧ ∀ step inner, value.step? step = some inner →
        ∃ sub, schema.step? step = some sub ∧ sub.accepts inner = true := by
  cases h with
  | string =>
    simp only [accepts, Fits]
    constructor
    · intro hstring
      obtain ⟨s, rfl⟩ := isString_iff.mp hstring
      refine ⟨⟨s, rfl⟩, fun step inner hstep => ?_⟩
      cases hstep
    · rintro ⟨hstring, -⟩
      exact isString_iff.mpr hstring
  | integer =>
    simp only [accepts, Fits]
    refine ⟨fun hinteger => ⟨hinteger, fun step inner hstep => ?_⟩, fun hfits => hfits.1⟩
    rw [step?_eq_none_of_integerLike hinteger] at hstep
    cases hstep
  | unrecognized typeName => simp [accepts, Fits]
  | @array items _ =>
    constructor
    · intro haccepts
      obtain ⟨values, rfl⟩ := exists_array_of_accepts haccepts
      refine ⟨⟨values, rfl⟩, fun step inner hstep => ?_⟩
      cases step with
      | item index => exact ⟨items, rfl, accepts_array_iff.mp haccepts index inner hstep⟩
      | field name => cases hstep
    · rintro ⟨⟨values, rfl⟩, hsteps⟩
      refine accepts_array_iff.mpr fun index value hvalue => ?_
      obtain ⟨sub, hsub, haccepts⟩ := hsteps (.item index) value hvalue
      obtain rfl := Option.some.inj hsub
      exact haccepts
  | @object required properties hsorted _ =>
    constructor
    · intro haccepts
      obtain ⟨fields, rfl⟩ := exists_object_of_accepts haccepts
      obtain ⟨hrequired, hfields⟩ := (accepts_object_iff hsorted fields).mp haccepts
      refine ⟨⟨fields, rfl, hrequired⟩, fun step inner hstep => ?_⟩
      cases step with
      | item index => cases hstep
      | field name => exact hfields name inner hstep
    · rintro ⟨⟨fields, rfl, hrequired⟩, hsteps⟩
      exact (accepts_object_iff hsorted fields).mpr
        ⟨hrequired, fun name value hvalue => hsteps (.field name) value hvalue⟩

/-! ## Lemmas: paths -/

/-- What is one step inside a well-formed schema is well-formed. -/
theorem WellFormed.step? {schema sub : Schema} (h : schema.WellFormed) {step : Step}
    (hsub : schema.step? step = some sub) : sub.WellFormed := by
  cases h with
  | string => cases hsub
  | integer => cases hsub
  | unrecognized typeName => cases hsub
  | array hitems =>
    cases step with
    | item index =>
      obtain rfl := Option.some.inj hsub
      exact hitems
    | field name => cases hsub
  | object hsorted heach =>
    cases step with
    | item index => cases hsub
    | field name => exact heach _ (Fields.mem_of_get? hsub)

theorem at?_cons {value inner : Json} {step : Step} (h : value.step? step = some inner)
    (path : List Step) : value.at? (step :: path) = inner.at? path := by
  simp only [Json.at?, h]

theorem schema_at?_cons {schema inner : Schema} {step : Step}
    (h : schema.step? step = some inner) (path : List Step) :
    schema.at? (step :: path) = inner.at? path := by
  simp only [Schema.at?, h]

/-- Inside an accepted value every position has a schema, and what is there fits it. -/
theorem fits_of_accepts {schema : Schema} (h : schema.WellFormed) {value : Json}
    (haccepts : schema.accepts value = true) {path : List Step} {inner : Json}
    (hinner : value.at? path = some inner) : ∃ sub, schema.at? path = some sub ∧ sub.Fits inner := by
  induction path generalizing schema value with
  | nil =>
    simp only [Json.at?, Option.some.injEq] at hinner
    rw [← hinner]
    exact ⟨schema, rfl, ((accepts_iff_forall_step h value).mp haccepts).1⟩
  | cons step path ih =>
    cases hstep : value.step? step with
    | none => simp [Json.at?, hstep] at hinner
    | some next =>
      rw [at?_cons hstep] at hinner
      obtain ⟨sub, hsub, hnext⟩ := ((accepts_iff_forall_step h value).mp haccepts).2 step next hstep
      rw [schema_at?_cons hsub]
      exact ih (h.step? hsub) hnext hinner

/-- A step leads to a smaller schema. -/
theorem sizeOf_lt_of_step? {schema sub : Schema} {step : Step}
    (h : schema.step? step = some sub) : sizeOf sub < sizeOf schema := by
  cases schema with
  | string => cases h
  | integer => cases h
  | unrecognized typeName => cases h
  | array items =>
    cases step with
    | item index =>
      obtain rfl := Option.some.inj h
      rw [Schema.array.sizeOf_spec]
      omega
    | field name => cases h
  | object required properties =>
    cases step with
    | item index => cases h
    | field name =>
      have hmem := List.sizeOf_lt_of_mem (Fields.mem_of_get? h)
      rw [Prod.mk.sizeOf_spec] at hmem
      rw [Schema.object.sizeOf_spec]
      omega

/-- A field leads to a smaller value. -/
theorem sizeOf_lt_of_get? {fields : List (String × Json)} {name : String} {value : Json}
    (h : Fields.get? fields name = some value) : sizeOf value < sizeOf (Json.object fields) := by
  have hmem := List.sizeOf_lt_of_mem (Fields.mem_of_get? h)
  rw [Prod.mk.sizeOf_spec] at hmem
  rw [Json.object.sizeOf_spec]
  omega

/-- A value whose positions all fit is accepted. The induction is on the schema, since a step
leads to a smaller one. -/
theorem accepts_of_fits {schema : Schema} (h : schema.WellFormed) (value : Json)
    (hfits : ∀ path inner, value.at? path = some inner →
      ∃ sub, schema.at? path = some sub ∧ sub.Fits inner) :
    schema.accepts value = true := by
  have hroot : schema.Fits value := by
    obtain ⟨sub, hsub, hfit⟩ := hfits [] value rfl
    obtain rfl := Option.some.inj hsub
    exact hfit
  refine (accepts_iff_forall_step h value).mpr ⟨hroot, fun step inner hstep => ?_⟩
  cases hsub : schema.step? step with
  | none =>
    obtain ⟨sub, hpath, -⟩ := hfits [step] inner (at?_cons hstep [])
    simp [Schema.at?, hsub] at hpath
  | some sub =>
    refine ⟨sub, rfl, accepts_of_fits (h.step? hsub) inner fun path value' hvalue' => ?_⟩
    have hpath := hfits (step :: path) value' ((at?_cons hstep path).trans hvalue')
    rw [schema_at?_cons hsub] at hpath
    exact hpath
termination_by sizeOf schema
decreasing_by exact sizeOf_lt_of_step? hsub

/-! ## The theorem -/

/-- **Acceptance is checked everywhere.** A value is accepted iff every path to a value inside it
leads through the schema too, to a schema that this value fits. -/
theorem accepts_iff_forall_position (schema : Schema) (h : schema.WellFormed) (value : Json) :
    schema.accepts value = true ↔
      ∀ path inner, value.at? path = some inner →
        ∃ sub, schema.at? path = some sub ∧ sub.Fits inner :=
  ⟨fun haccepts _ _ hinner => fits_of_accepts h haccepts hinner, accepts_of_fits h value⟩

/-- One number among the texts of a list of lists does not fit, so the whole value is refused. -/
theorem not_forall_position_of_deep_misfit :
    (Schema.object ["id"] [("id", .integer), ("tags", .array (.array .string))]).WellFormed ∧
    ¬∀ path inner,
      (Json.object [("tags", .array [.array [.string "a"], .array [.number (.whole 1)]]),
        ("id", .string " -7 ")]).at? path = some inner →
      ∃ sub, (Schema.object ["id"] [("id", .integer), ("tags", .array (.array .string))]).at? path =
        some sub ∧ sub.Fits inner := by
  have hsorted : Fields.Sorted [("id", Schema.integer), ("tags", .array (.array .string))] := by
    unfold Fields.Sorted
    decide
  have hformed : (Schema.object ["id"]
      [("id", .integer), ("tags", .array (.array .string))]).WellFormed := by
    refine .object hsorted fun p hp => ?_
    rcases List.mem_cons.mp hp with rfl | hp
    · exact .integer
    · obtain rfl := List.mem_singleton.mp hp
      exact .array (.array .string)
  refine ⟨hformed, fun hall => ?_⟩
  have haccepts := (accepts_iff_forall_position _ hformed _).mpr hall
  exact absurd haccepts (by decide)

end Schema

end Gatehouse
