import Gatehouse.Proofs.Lists.Last
import Gatehouse.Proofs.Schema.WellFormed
/-!
The forms that a schema can be written in.

A schema is written as an object, or as a list of the values of its fields, of which the last ones
may be left out. The two forms of a record are read alike (`decode_of_record`), and nothing else is
read as a schema. Nor is anything else read where a schema uses another one, for its items or for a
property: what a value uses is read whenever the value is (`Uses.decode`), and so is what it uses
at any depth (`Within.decode`).
-/

namespace Gatehouse.Schema

/-! ## Records -/

/-- The names of the fields of a schema, in the order of the values on a list. -/
def fieldNames : List String :=
  ["type", "items", "required", "properties"]

/-- The value is a record with the fields: an object, or a list of their values, in order. -/
inductive Record : Json → List (String × Json) → Prop
  | object {fields : List (String × Json)} : Record (.object fields) fields
  | list {values : List Json} : values ≠ [] → values.length ≤ fieldNames.length →
      Record (.array values) (fieldNames.zip values)

/-- The last value under a name. -/
def LastUnder (fields : List (String × Json)) (name : String) (value : Json) : Prop :=
  IsLast (fun field => field.1 = name) fields (name, value)

/-- A value uses another one as a schema: the one under `items`, if its type is `array`, and each
one under `properties`, whatever its type is. -/
inductive Uses : Json → Json → Prop
  | items {value inner : Json} {fields : List (String × Json)} : Record value fields →
      LastUnder fields "type" (.string "array") → LastUnder fields "items" inner → Uses value inner
  | property {value inner : Json} {fields properties : List (String × Json)} {name : String} :
      Record value fields → ("properties", .object properties) ∈ fields →
      (name, inner) ∈ properties → Uses value inner

/-- A value is another one, or is used by it at some depth. -/
inductive Within (value : Json) : Json → Prop
  | itself : Within value value
  | deeper {inner innermost : Json} : Within value inner → Uses inner innermost →
      Within value innermost

/-! ## Lemmas: the two forms -/

/-- The values on a list are taken up as the fields of an object. -/
theorem fromList_eq_fromFields {values : List Json} (hne : values ≠ [])
    (hlength : values.length ≤ fieldNames.length) :
    fromList values = fromFields (fieldNames.zip values) .empty := by
  match values with
  | [] => exact absurd rfl hne
  | [type] =>
    simp only [fieldNames, List.zip_cons_cons, List.zip_nil_right, fromList, fromFields, if_true]
    cases typeOf type <;> rfl
  | [type, items] =>
    simp only [fieldNames, List.zip_cons_cons, List.zip_nil_right, fromList, fromFields, if_true]
    cases typeOf type <;> rfl
  | [type, items, required] =>
    simp only [fieldNames, List.zip_cons_cons, List.zip_nil_right, fromList, fromFields, if_true]
    cases typeOf type with
    | error e => rfl
    | ok type => cases requiredOf required <;> rfl
  | [type, items, required, properties] =>
    simp only [fieldNames, List.zip_cons_cons, List.zip_nil_right, fromList, fromFields, if_true]
    cases typeOf type with
    | error e => rfl
    | ok type =>
      cases requiredOf required with
      | error e => rfl
      | ok required => cases propertiesOf properties <;> rfl
  | _ :: _ :: _ :: _ :: _ :: _ =>
    simp only [fieldNames, List.length_cons, List.length_nil] at hlength
    omega

/-- A record is read by its fields, whichever form it has. -/
theorem decode_of_record {value : Json} {fields : List (String × Json)}
    (h : Record value fields) : decode value = decode (.object fields) := by
  cases h with
  | object => rfl
  | list hne hlength => simp only [decode, fromList_eq_fromFields hne hlength]

/-- Nothing but a record is read. -/
theorem exists_record_of_decode {value : Json} {schema : Schema} (h : decode value = .ok schema) :
    ∃ fields, Record value fields := by
  cases value with
  | object fields => exact ⟨_, .object⟩
  | array values =>
    by_cases hne : values = []
    · rw [hne] at h
      simp [decode, fromList] at h
    by_cases hlength : values.length ≤ fieldNames.length
    · exact ⟨_, .list hne hlength⟩
    · match values with
      | type :: items :: required :: properties :: value :: rest =>
        simp only [decode, fromList] at h
        split at h
        · cases h
        · next hparts =>
          obtain ⟨_, -, hparts⟩ := ok_of_bind hparts
          obtain ⟨_, -, hparts⟩ := ok_of_bind hparts
          obtain ⟨_, -, hparts⟩ := ok_of_bind hparts
          cases hparts
      | [] | [_] | [_, _] | [_, _, _] | [_, _, _, _] => simp [fieldNames] at hlength
  | null | bool | number | string => simp [decode, mistyped] at h

/-! ## Lemmas: what is read with a schema -/

/-- Fields are taken up one after the other. -/
theorem fromFields_cons (field : String × Json) (rest : List (String × Json)) (parts : Parts) :
    fromFields (field :: rest) parts = fromFields [field] parts >>= fromFields rest := by
  obtain ⟨key, value⟩ := field
  simp only [fromFields]
  by_cases htype : key = "type"
  · simp only [htype, if_true]
    cases typeOf value <;> rfl
  by_cases hitems : key = "items"
  · simp only [hitems, if_true]
    rfl
  by_cases hrequired : key = "required"
  · simp only [hrequired, if_true]
    cases requiredOf value <;> rfl
  by_cases hproperties : key = "properties"
  · simp only [hproperties, if_true]
    cases propertiesOf value <;> rfl
  · simp only [htype, hitems, hrequired, hproperties, if_false]
    rfl

/-- What one field changes: the part that it is for, and nothing if it is for none. -/
structure Takes (key : String) (value : Json) (parts result : Parts) : Prop where
  type_of_ne : key ≠ "type" → result.type = parts.type
  items_of_ne : key ≠ "items" → result.items = parts.items
  type : key = "type" → typeOf value = .ok result.type
  items : key = "items" → result.items = itemsOf value
  properties : key = "properties" → ∃ properties, propertiesOf value = .ok properties

theorem takes_of_fromFields {key : String} {value : Json} {parts result : Parts}
    (h : fromFields [(key, value)] parts = .ok result) : Takes key value parts result := by
  simp only [fromFields] at h
  split at h
  · next htype =>
    split at h
    · cases h
    · next hread =>
      cases h
      constructor <;> simp [htype, hread]
  split at h
  · next hitems =>
    cases h
    constructor <;> simp [hitems]
  split at h
  · next hrequired =>
    split at h
    · cases h
    · cases h
      constructor <;> simp [hrequired]
  split at h
  · next hproperties =>
    split at h
    · cases h
    · next hread =>
      cases h
      constructor <;> simp [hproperties, hread]
  · next htype hitems _ hproperties =>
    cases h
    constructor <;> simp [htype, hitems, hproperties]

/-- A field among others is taken up behind those in front of it. -/
theorem exists_taken {before after : List (String × Json)} {field : String × Json}
    {parts result : Parts} (h : fromFields (before ++ field :: after) parts = .ok result) :
    ∃ parts' parts'', fromFields [field] parts' = .ok parts'' ∧
      fromFields after parts'' = .ok result := by
  induction before generalizing parts with
  | nil =>
    rw [List.nil_append, fromFields_cons] at h
    obtain ⟨parts'', hfield, hafter⟩ := ok_of_bind h
    exact ⟨parts, parts'', hfield, hafter⟩
  | cons other before ih =>
    rw [List.cons_append, fromFields_cons] at h
    obtain ⟨_, -, hrest⟩ := ok_of_bind h
    exact ih hrest

/-- A part that no field is for stays as it is. -/
theorem part_of_fromFields {α : Type} {part : Parts → α} {name : String}
    (hpart : ∀ key value parts result, key ≠ name →
      fromFields [(key, value)] parts = .ok result → part result = part parts)
    {fields : List (String × Json)} {parts result : Parts}
    (hnot : ∀ field ∈ fields, ¬field.1 = name) (h : fromFields fields parts = .ok result) :
    part result = part parts := by
  induction fields generalizing parts with
  | nil =>
    simp only [fromFields, Except.ok.injEq] at h
    rw [h]
  | cons field fields ih =>
    rw [fromFields_cons] at h
    obtain ⟨parts', hfield, hrest⟩ := ok_of_bind h
    obtain ⟨hne, hnot⟩ := List.forall_mem_cons.mp hnot
    rw [ih hnot hrest, hpart _ _ _ _ hne hfield]

/-- The last field for a part decides about it. -/
theorem part_of_lastUnder {α : Type} {part : Parts → α} {name : String}
    (hpart : ∀ key value parts result, key ≠ name →
      fromFields [(key, value)] parts = .ok result → part result = part parts)
    {fields : List (String × Json)} {value : Json} {parts result : Parts}
    (hlast : LastUnder fields name value) (h : fromFields fields parts = .ok result) :
    ∃ parts' parts'', fromFields [(name, value)] parts' = .ok parts'' ∧
      part result = part parts'' := by
  obtain ⟨before, after, rfl, -, hafter⟩ := hlast
  obtain ⟨parts', parts'', hfield, hrest⟩ := exists_taken h
  exact ⟨parts', parts'', hfield, part_of_fromFields hpart hafter hrest⟩

theorem type_of_lastUnder {fields : List (String × Json)} {value : Json} {parts result : Parts}
    (hlast : LastUnder fields "type" value) (h : fromFields fields parts = .ok result) :
    typeOf value = .ok result.type := by
  obtain ⟨_, _, hfield, htype⟩ := part_of_lastUnder
    (fun _ _ _ _ hne h => (takes_of_fromFields h).type_of_ne hne) hlast h
  rw [htype]
  exact (takes_of_fromFields hfield).type rfl

theorem items_of_lastUnder {fields : List (String × Json)} {value : Json} {parts result : Parts}
    (hlast : LastUnder fields "items" value) (h : fromFields fields parts = .ok result) :
    result.items = itemsOf value := by
  obtain ⟨_, _, hfield, hitems⟩ := part_of_lastUnder
    (fun _ _ _ _ hne h => (takes_of_fromFields h).items_of_ne hne) hlast h
  rw [hitems]
  exact (takes_of_fromFields hfield).items rfl

theorem propertiesOf_of_mem {fields : List (String × Json)} {value : Json} {parts result : Parts}
    (hmem : ("properties", value) ∈ fields) (h : fromFields fields parts = .ok result) :
    ∃ properties, propertiesOf value = .ok properties := by
  obtain ⟨before, after, rfl⟩ := List.append_of_mem hmem
  obtain ⟨_, _, hfield, -⟩ := exists_taken h
  exact (takes_of_fromFields hfield).properties rfl

/-- Where properties are read, each of them is. -/
theorem decode_of_mem_decodeAll {fields : List (String × Json)}
    {properties result : List (String × Schema)} {name : String} {value : Json}
    (h : decodeAll fields properties = .ok result) (hmem : (name, value) ∈ fields) :
    ∃ schema, decode value = .ok schema := by
  induction fields generalizing properties with
  | nil => cases hmem
  | cons field rest ih =>
    obtain ⟨other, found⟩ := field
    simp only [decodeAll] at h
    split at h
    · cases h
    · next schema hschema =>
      rcases List.mem_cons.mp hmem with heq | hrest
      · obtain ⟨-, rfl⟩ := Prod.mk.inj heq
        exact ⟨schema, hschema⟩
      · exact ih h hrest

/-- What says something about items, and describes a schema, is read as one. -/
theorem decode_of_itemsOf {value : Json} {schema : Schema}
    (h : itemsOf value = .schema (.ok schema)) : decode value = .ok schema := by
  cases value <;> simp_all [itemsOf]

theorem items_of_toSchema {parts : Parts} {schema : Schema} (htype : parts.type = some "array")
    (h : parts.toSchema = .ok schema) : ∃ items, parts.items = .schema (.ok items) := by
  simp only [Parts.toSchema, htype, if_true] at h
  split at h
  · cases h
  · cases h
  · next items hitems => exact ⟨items, hitems⟩
  · cases h

/-- What a value uses is read whenever the value is. -/
theorem Uses.decode {value inner : Json} (h : Uses value inner) {schema : Schema}
    (hschema : decode value = .ok schema) : ∃ schema, Schema.decode inner = .ok schema := by
  cases h with
  | items hrecord htype hitems =>
    rw [decode_of_record hrecord, Schema.decode] at hschema
    split at hschema
    · cases hschema
    · next parts hparts =>
      have harray : parts.type = some "array" :=
        (Except.ok.inj (type_of_lastUnder htype hparts)).symm
      obtain ⟨sub, hsub⟩ := items_of_toSchema harray hschema
      rw [items_of_lastUnder hitems hparts] at hsub
      exact ⟨sub, decode_of_itemsOf hsub⟩
  | property hrecord hproperties hinner =>
    rw [decode_of_record hrecord, Schema.decode] at hschema
    split at hschema
    · cases hschema
    · next parts hparts =>
      obtain ⟨found, hfound⟩ := propertiesOf_of_mem hproperties hparts
      rw [propertiesOf] at hfound
      exact decode_of_mem_decodeAll hfound hinner

/-- So is what it uses at some depth. -/
theorem Within.decode {value inner : Json} (h : Within value inner) {schema : Schema}
    (hschema : Schema.decode value = .ok schema) : ∃ schema, Schema.decode inner = .ok schema := by
  induction h with
  | itself => exact ⟨schema, hschema⟩
  | deeper _ huses ih =>
    obtain ⟨_, hinner⟩ := ih
    exact huses.decode hinner

end Gatehouse.Schema
