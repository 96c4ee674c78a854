import Gatehouse.Schema.Decode
/-!
Well-formed schemas: the properties of every object schema stand in increasing order of their
names, so a name has one property.

Every schema that is read is well-formed (`wellFormed_decode`), and so is one that is built step
by step (`wellFormed_require`, `wellFormed_allow`). Induction on well-formedness is induction on
the tree: a property of an object schema is well-formed itself. Reading is gone through once, for
every property that comes up from the leaves (`Hereditary.of_decode`).

Whether a given schema is well-formed can be computed (`isWellFormed_iff`).
-/

namespace Gatehouse.Schema

/-- The properties of every object schema in a schema are sorted. -/
inductive WellFormed : Schema → Prop
  | string : WellFormed .string
  | integer : WellFormed .integer
  | unrecognized (typeName : String) : WellFormed (.unrecognized typeName)
  | array {items : Schema} : WellFormed items → WellFormed (.array items)
  | object {required : List String} {properties : List (String × Schema)} :
      Fields.Sorted properties → (∀ p ∈ properties, WellFormed p.2) →
      WellFormed (.object required properties)

/-- Properties in increasing order of their names, the schemas of which all have a property. -/
structure SortedEach (P : Schema → Prop) (properties : List (String × Schema)) : Prop where
  sorted : Fields.Sorted properties
  each : ∀ p ∈ properties, P p.2

/-- A property that comes up from the leaves of a schema: the leaves that are read have it, and so
has what is built of schemas that have it. -/
structure Hereditary (P : Schema → Prop) : Prop where
  leaf : ∀ name, name ≠ "array" → name ≠ "object" → P (leaf name)
  array : ∀ items, P items → P (.array items)
  object : ∀ required properties, SortedEach P properties → P (.object required properties)

/-! ## Deciding -/

mutual

/-- The properties of every object schema are sorted, by a walk over the tree. -/
def isWellFormed : Schema → Bool
  | .string => true
  | .integer => true
  | .unrecognized _ => true
  | .array items => isWellFormed items
  | .object _ properties => decide (Fields.Sorted properties) && allWellFormed properties

/-- The schemas of all properties are well-formed. -/
def allWellFormed : List (String × Schema) → Bool
  | [] => true
  | (_, schema) :: rest => isWellFormed schema && allWellFormed rest

end

mutual

theorem isWellFormed_iff : ∀ schema : Schema, schema.isWellFormed = true ↔ schema.WellFormed
  | .string => ⟨fun _ => .string, fun _ => rfl⟩
  | .integer => ⟨fun _ => .integer, fun _ => rfl⟩
  | .unrecognized typeName => ⟨fun _ => .unrecognized typeName, fun _ => rfl⟩
  | .array items => by
    rw [isWellFormed, isWellFormed_iff items]
    constructor
    · intro hitems
      exact .array hitems
    · intro h
      cases h with
      | array hitems => exact hitems
  | .object required properties => by
    rw [isWellFormed, Bool.and_eq_true, decide_eq_true_iff, allWellFormed_iff properties]
    constructor
    · rintro ⟨hsorted, heach⟩
      exact .object hsorted heach
    · intro h
      cases h with
      | object hsorted heach => exact ⟨hsorted, heach⟩

theorem allWellFormed_iff : ∀ properties : List (String × Schema),
    allWellFormed properties = true ↔ ∀ p ∈ properties, p.2.WellFormed
  | [] => by simp [allWellFormed]
  | (name, schema) :: rest => by
    rw [allWellFormed, Bool.and_eq_true, isWellFormed_iff schema, allWellFormed_iff rest,
      List.forall_mem_cons]

end

instance (schema : Schema) : Decidable schema.WellFormed :=
  decidable_of_iff _ (isWellFormed_iff schema)

/-! ## Leaves -/

theorem wellFormed_leaf (name : String) : WellFormed (leaf name) := by
  unfold leaf
  split
  · exact .string
  · split
    · exact .integer
    · exact .unrecognized name

theorem hereditary_wellFormed : Hereditary WellFormed where
  leaf name _ _ := wellFormed_leaf name
  array _ hitems := .array hitems
  object _ _ h := .object h.sorted h.each

section

variable {P : Schema → Prop}

theorem sortedEach_nil : SortedEach P [] :=
  ⟨List.Pairwise.nil, fun _ h => nomatch h⟩

theorem SortedEach.putSorted {properties : List (String × Schema)} (h : SortedEach P properties)
    (name : String) {schema : Schema} (hschema : P schema) :
    SortedEach P (Fields.putSorted properties name schema) := by
  have hsorted := Fields.pairwise_putSorted h.sorted name schema
  refine ⟨hsorted, fun p hp => ?_⟩
  have hget := (Fields.get?_eq_some_iff_mem hsorted).mpr hp
  rw [Fields.get?_putSorted] at hget
  split at hget
  · obtain rfl := Option.some.inj hget
    exact hschema
  · exact h.each _ (Fields.mem_of_get? hget)

end

/-! ## Building -/

theorem wellFormed_require {shape : Shape} (h : WellFormed shape.toSchema) (name : String)
    {schema : Schema} (hschema : WellFormed schema) :
    WellFormed (shape.require name schema).toSchema := by
  cases h with
  | object hsorted heach =>
    have hput := SortedEach.putSorted ⟨hsorted, heach⟩ name hschema
    exact .object hput.sorted hput.each

theorem wellFormed_allow {shape : Shape} (h : WellFormed shape.toSchema) (name : String)
    {schema : Schema} (hschema : WellFormed schema) :
    WellFormed (shape.allow name schema).toSchema := by
  cases h with
  | object hsorted heach =>
    have hput := SortedEach.putSorted ⟨hsorted, heach⟩ name hschema
    exact .object hput.sorted hput.each

/-! ## Reading -/

section

variable {P : Schema → Prop}

/-- What is written about items describes a schema with the property, if it describes one. -/
def Items.Each (P : Schema → Prop) (items : Items) : Prop :=
  ∀ schema, items = .schema (.ok schema) → P schema

/-- The parts describe schemas with the property. -/
structure Parts.Each (P : Schema → Prop) (parts : Parts) : Prop where
  items : parts.items.Each P
  properties : SortedEach P parts.properties

theorem each_empty : Parts.empty.Each P :=
  ⟨fun _ h => (nomatch h), sortedEach_nil⟩

/-- A computation that ends well has ended well in its first part. -/
theorem ok_of_bind {α β : Type} {first : Except Error α} {next : α → Except Error β} {b : β}
    (h : (first >>= next) = .ok b) : ∃ a, first = .ok a ∧ next a = .ok b := by
  cases first with
  | error e => cases h
  | ok a => exact ⟨a, rfl, h⟩

theorem Parts.Each.of_toSchema (hP : Hereditary P) {parts : Parts} (h : parts.Each P)
    {schema : Schema} (hschema : parts.toSchema = .ok schema) : P schema := by
  unfold Parts.toSchema at hschema
  split at hschema
  · cases hschema
  · next type _ =>
    split at hschema
    · split at hschema
      · cases hschema
      · cases hschema
      · next items hitems =>
        cases hschema
        exact hP.array items (h.items items hitems)
      · cases hschema
    · next harray =>
      split at hschema
      · cases hschema
        exact hP.object _ _ h.properties
      · next hobject =>
        cases hschema
        exact hP.leaf type harray hobject

mutual

/-- A schema that is read has every property that comes up from the leaves. -/
theorem Hereditary.of_decode (hP : Hereditary P) :
    ∀ (value : Json) (schema : Schema), decode value = .ok schema → P schema
  | .object fields, schema, h => by
    simp only [decode] at h
    split at h
    · cases h
    · next parts hparts =>
      exact Parts.Each.of_toSchema hP (each_of_fromFields hP fields _ _ each_empty hparts) h
  | .array values, schema, h => by
    simp only [decode] at h
    split at h
    · cases h
    · next parts hparts =>
      exact Parts.Each.of_toSchema hP (each_of_fromList hP values _ hparts) h
  | .null, _, h => by simp [decode, mistyped] at h
  | .bool _, _, h => by simp [decode, mistyped] at h
  | .number _, _, h => by simp [decode, mistyped] at h
  | .string _, _, h => by simp [decode, mistyped] at h

theorem each_of_fromFields (hP : Hereditary P) :
    ∀ (fields : List (String × Json)) (parts result : Parts), parts.Each P →
      fromFields fields parts = .ok result → result.Each P
  | [], parts, result, hparts, h => by
    simp only [fromFields, Except.ok.injEq] at h
    rw [← h]
    exact hparts
  | (key, value) :: rest, parts, result, hparts, h => by
    have hitems := each_of_itemsOf hP value
    have hproperties := sortedEach_of_propertiesOf hP value
    have ih := fun parts hread hparts => each_of_fromFields hP rest parts result hparts hread
    simp only [fromFields] at h
    split at h
    · split at h
      · cases h
      · exact ih _ h ⟨hparts.items, hparts.properties⟩
    · split at h
      · exact ih _ h ⟨hitems, hparts.properties⟩
      · split at h
        · split at h
          · cases h
          · exact ih _ h ⟨hparts.items, hparts.properties⟩
        · split at h
          · split at h
            · cases h
            · next properties hread => exact ih _ h ⟨hparts.items, hproperties properties hread⟩
          · exact ih _ h hparts

theorem each_of_fromList (hP : Hereditary P) :
    ∀ (values : List Json) (result : Parts), fromList values = .ok result → result.Each P
  | [], _, h => by simp [fromList] at h
  | [_], _, h => by
    simp only [fromList] at h
    obtain ⟨_, -, h⟩ := ok_of_bind h
    cases h
    exact ⟨each_empty.items, sortedEach_nil⟩
  | [_, items], _, h => by
    simp only [fromList] at h
    obtain ⟨_, -, h⟩ := ok_of_bind h
    cases h
    exact ⟨each_of_itemsOf hP items, sortedEach_nil⟩
  | [_, items, _], _, h => by
    simp only [fromList] at h
    obtain ⟨_, -, h⟩ := ok_of_bind h
    obtain ⟨_, -, h⟩ := ok_of_bind h
    cases h
    exact ⟨each_of_itemsOf hP items, sortedEach_nil⟩
  | _ :: items :: _ :: properties :: _, _, h => by
    simp only [fromList] at h
    obtain ⟨_, -, h⟩ := ok_of_bind h
    obtain ⟨_, -, h⟩ := ok_of_bind h
    obtain ⟨_, hread, h⟩ := ok_of_bind h
    have hproperties := sortedEach_of_propertiesOf hP properties _ hread
    split at h
    · cases h
      exact ⟨each_of_itemsOf hP items, hproperties⟩
    · cases h

theorem each_of_itemsOf (hP : Hereditary P) : ∀ value : Json, (itemsOf value).Each P
  | .null => fun _ h => by simp [itemsOf] at h
  | .string _ => fun _ h => by simp [itemsOf] at h
  | .object fields => fun schema h => by
    simp only [itemsOf, Items.schema.injEq] at h
    exact hP.of_decode (.object fields) schema h
  | .array values => fun schema h => by
    simp only [itemsOf, Items.schema.injEq] at h
    exact hP.of_decode (.array values) schema h
  | .bool _ => fun _ h => by simp [itemsOf, decode, mistyped] at h
  | .number _ => fun _ h => by simp [itemsOf, decode, mistyped] at h

theorem sortedEach_of_propertiesOf (hP : Hereditary P) :
    ∀ (value : Json) (properties : List (String × Schema)),
      propertiesOf value = .ok properties → SortedEach P properties
  | .object fields, properties, h => by
    simp only [propertiesOf] at h
    exact sortedEach_of_decodeAll hP fields _ _ sortedEach_nil h
  | .null, _, h => by simp [propertiesOf, mistyped] at h
  | .bool _, _, h => by simp [propertiesOf, mistyped] at h
  | .number _, _, h => by simp [propertiesOf, mistyped] at h
  | .string _, _, h => by simp [propertiesOf, mistyped] at h
  | .array _, _, h => by simp [propertiesOf, mistyped] at h

theorem sortedEach_of_decodeAll (hP : Hereditary P) :
    ∀ (fields : List (String × Json)) (properties result : List (String × Schema)),
      SortedEach P properties → decodeAll fields properties = .ok result → SortedEach P result
  | [], _, _, hproperties, h => by
    simp only [decodeAll, Except.ok.injEq] at h
    rw [← h]
    exact hproperties
  | (name, value) :: rest, _, _, hproperties, h => by
    simp only [decodeAll] at h
    split at h
    · cases h
    · next schema hschema =>
      have hput := hproperties.putSorted name (hP.of_decode value schema hschema)
      exact sortedEach_of_decodeAll hP rest _ _ hput h

end

end

/-- A schema that is read is well-formed. -/
theorem wellFormed_decode {value : Json} {schema : Schema} (h : decode value = .ok schema) :
    schema.WellFormed :=
  hereditary_wellFormed.of_decode value schema h

end Gatehouse.Schema
