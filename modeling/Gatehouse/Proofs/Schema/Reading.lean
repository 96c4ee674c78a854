import Gatehouse.Proofs.Schema.Forms
import Mathlib.Tactic.MkIffOfInductiveProp
/-!
How a written schema is read, name by name.

The fields of a written schema are taken up in their order. Where no name is there twice, the order
leaves no trace: each part is what stands under its name, or is missing.

    fromFields fields parts = .ok result  ↔  each part of the result is read under its name
                                                               (fromFields_eq_ok_iff)
    decodeAll fields [] = .ok properties  ↔  under each name, the schema of what is written there
                                                               (decodeAll_eq_ok_iff)

So two objects in which what stands under the four names is read alike are read alike
(`decode_congr`), and in particular two with the same under these names (`decode_of_fieldNames`).
-/

namespace Gatehouse.Schema

open Fields (Sorted names get? get?_putSorted pairwise_putSorted)

/-! ## One name -/

/-- What is found under a name is read as a value; where nothing is found, the value is the one
from before. -/
def Reads {α : Type} (read : Json → Except Error α) (before : α) : Option Json → α → Prop
  | none, a => a = before
  | some value, a => read value = .ok a

/-- Each part is read under its name. -/
@[mk_iff]
structure ReadsParts (fields : List (String × Json)) (before result : Parts) : Prop where
  type : Reads typeOf before.type (get? fields "type") result.type
  items : Reads (fun value => .ok (itemsOf value)) before.items (get? fields "items") result.items
  required : Reads requiredOf before.required (get? fields "required") result.required
  properties : Reads propertiesOf before.properties (get? fields "properties") result.properties

/-- Under each name there is the schema of what is written there, or the one from before if nothing
is. -/
@[mk_iff]
structure ReadsAll (fields : List (String × Json)) (before result : List (String × Schema)) :
    Prop where
  sorted : Sorted result
  kept : ∀ name, get? fields name = none → get? result name = get? before name
  read : ∀ name value, get? fields name = some value →
    ∃ schema, decode value = .ok schema ∧ get? result name = some schema

/-- What a schema is made of makes it up: its type, what stands under `items`, what is required and
the properties. -/
inductive Makes (items : Option Json) (required : List String)
    (properties : List (String × Schema)) : String → Schema → Prop
  | array {value : Json} {schema : Schema} : items = some value → decode value = .ok schema →
      Makes items required properties "array" (.array schema)
  | object : Makes items required properties "object" (.object required properties)
  | leaf {type : String} : type ≠ "array" → type ≠ "object" →
      Makes items required properties type (leaf type)

/-! ## Lemmas: the parts -/

/-- Where no name is there twice, the last value under a name is the one. -/
theorem lastUnder_iff {fields : List (String × Json)} (h : (names fields).Nodup) {name : String}
    {value : Json} : LastUnder fields name value ↔ get? fields name = some value := by
  refine ⟨fun hlast => (Fields.get?_eq_some_iff_mem_of_nodup h).mpr hlast.mem.1, fun hget => ?_⟩
  obtain ⟨before, after, rfl⟩ := List.append_of_mem (Fields.mem_of_get? hget)
  refine ⟨before, after, rfl, rfl, fun field hfield heq => ?_⟩
  -- a later field of the name would be a second one
  simp only [names, List.map_append, List.map_cons] at h
  have hnot := (List.nodup_cons.mp (List.nodup_append.mp h).2.1).1
  exact hnot (List.mem_map.mpr ⟨field, hfield, heq⟩)

theorem readsParts_nil_iff {before result : Parts} :
    ReadsParts [] before result ↔ before = result := by
  constructor
  · rintro ⟨htype, hitems, hrequired, hproperties⟩
    obtain ⟨type, items, required, properties⟩ := result
    obtain rfl : type = before.type := htype
    obtain rfl : items = before.items := hitems
    obtain rfl : required = before.required := hrequired
    obtain rfl : properties = before.properties := hproperties
    rfl
  · rintro rfl
    exact ⟨rfl, rfl, rfl, rfl⟩

/-- Where no name is there twice, each part is read under its name. -/
theorem fromFields_eq_ok_iff {fields : List (String × Json)} (h : (names fields).Nodup)
    {before result : Parts} :
    fromFields fields before = .ok result ↔ ReadsParts fields before result := by
  induction fields generalizing before with
  | nil => rw [readsParts_nil_iff, fromFields, Except.ok.injEq]
  | cons field rest ih =>
    obtain ⟨key, value⟩ := field
    obtain ⟨hkey, hrest⟩ := List.nodup_cons.mp h
    have hnone : get? rest key = none := Fields.get?_eq_none_iff.mpr hkey
    simp only [fromFields]
    split
    · next htype =>
      subst htype
      cases hread : typeOf value <;>
        simp [ih hrest, readsParts_iff, Reads, get?, hnone, hread, eq_comm]
    split
    · next hitems =>
      subst hitems
      simp [ih hrest, readsParts_iff, Reads, get?, hnone, eq_comm]
    split
    · next hrequired =>
      subst hrequired
      cases hread : requiredOf value <;>
        simp [ih hrest, readsParts_iff, Reads, get?, hnone, hread, eq_comm]
    split
    · next hproperties =>
      subst hproperties
      cases hread : propertiesOf value <;>
        simp [ih hrest, readsParts_iff, Reads, get?, hnone, hread, eq_comm]
    · next htype hitems hrequired hproperties =>
      simp [ih hrest, readsParts_iff, get?, htype, hitems, hrequired, hproperties]

/-! ## Lemmas: the properties -/

theorem sorted_nil : Sorted ([] : List (String × Schema)) :=
  List.Pairwise.nil

theorem readsAll_nil_iff {before result : List (String × Schema)} (h : Sorted before) :
    ReadsAll [] before result ↔ before = result := by
  constructor
  · intro hreads
    exact h.ext_get? hreads.sorted fun name => (hreads.kept name rfl).symm
  · rintro rfl
    exact ⟨h, fun _ _ => rfl, fun _ _ h => nomatch h⟩

/-- A field that comes first is read, and those behind it are read after it. -/
theorem readsAll_cons_iff {name : String} {value : Json} {rest : List (String × Json)}
    {before result : List (String × Schema)} (h : name ∉ names rest) :
    ReadsAll ((name, value) :: rest) before result ↔ ∃ schema, decode value = .ok schema ∧
      ReadsAll rest (Fields.putSorted before name schema) result := by
  have hnone : get? rest name = none := Fields.get?_eq_none_iff.mpr h
  constructor
  · rintro ⟨hsorted, hkept, hread⟩
    obtain ⟨schema, hschema, hget⟩ := hread name value (by rw [get?, if_pos rfl])
    refine ⟨schema, hschema, hsorted, fun other hother => ?_, fun other found hother => ?_⟩
    · rw [get?_putSorted]
      split
      · next heq => rw [← heq, hget]
      · next hne => exact hkept other (by rw [get?, if_neg hne, hother])
    · have hne : name ≠ other := by
        rintro rfl
        rw [hnone] at hother
        cases hother
      exact hread other found (by rw [get?, if_neg hne, hother])
  · rintro ⟨schema, hschema, hsorted, hkept, hread⟩
    refine ⟨hsorted, fun other hother => ?_, fun other found hother => ?_⟩
    · rw [get?] at hother
      split at hother
      · cases hother
      · next hne => rw [hkept other hother, get?_putSorted, if_neg hne]
    · rw [get?] at hother
      split at hother
      · next heq =>
        obtain rfl := Option.some.inj hother
        subst heq
        exact ⟨schema, hschema, by rw [hkept name hnone, get?_putSorted, if_pos rfl]⟩
      · exact hread other found hother

/-- Where no name is there twice, each property is read under its name. -/
theorem decodeAll_eq_ok_iff {fields : List (String × Json)} (h : (names fields).Nodup)
    {before result : List (String × Schema)} (hbefore : Sorted before) :
    decodeAll fields before = .ok result ↔ ReadsAll fields before result := by
  induction fields generalizing before with
  | nil => rw [readsAll_nil_iff hbefore, decodeAll, Except.ok.injEq]
  | cons field rest ih =>
    obtain ⟨name, value⟩ := field
    obtain ⟨hname, hrest⟩ := List.nodup_cons.mp h
    rw [readsAll_cons_iff hname, decodeAll]
    cases hread : decode value with
    | error e => simp
    | ok schema => simp [ih hrest (pairwise_putSorted hbefore name schema)]

/-! ## Lemmas: the schema -/

/-- What is written about items describes a schema iff it is read as one. -/
theorem itemsOf_eq_iff {value : Json} {schema : Schema} :
    itemsOf value = .schema (.ok schema) ↔ decode value = .ok schema := by
  cases value <;> simp [itemsOf, decode, mistyped]

/-- The parts make up a schema iff those that stand under their names do. -/
theorem toSchema_eq_ok_iff {parts : Parts} {items : Option Json} {schema : Schema}
    (h : Reads (fun value => .ok (itemsOf value)) .absent items parts.items) :
    parts.toSchema = .ok schema ↔
      ∃ type, parts.type = some type ∧ Makes items parts.required parts.properties type schema := by
  constructor
  · intro hschema
    unfold Parts.toSchema at hschema
    split at hschema
    · cases hschema
    · next type htype =>
      refine ⟨type, htype, ?_⟩
      split at hschema
      · next harray =>
        subst harray
        obtain ⟨sub, hsub⟩ := items_of_toSchema htype
          (show parts.toSchema = .ok schema by simpa [Parts.toSchema, htype] using hschema)
        rw [hsub] at h hschema
        cases hschema
        cases items with
        | none => cases h
        | some value => exact .array rfl (itemsOf_eq_iff.mp (Except.ok.inj h))
      split at hschema
      · next hobject =>
        subst hobject
        cases hschema
        exact .object
      · next harray hobject =>
        cases hschema
        exact .leaf harray hobject
  · rintro ⟨type, htype, hmakes⟩
    unfold Parts.toSchema
    cases hmakes with
    | @array value sub hitems hsub =>
      rw [hitems] at h
      have hparts : parts.items = .schema (.ok sub) := by
        rw [← Except.ok.inj h, itemsOf_eq_iff.mpr hsub]
      simp only [htype, hparts, if_true]
    | object => simp [htype]
    | leaf harray hobject => simp only [htype, harray, hobject, if_false]

/-- Where no name is there twice, an object is read by what stands under the four names. -/
theorem decode_object_eq_ok_iff {fields : List (String × Json)} (h : (names fields).Nodup)
    {schema : Schema} :
    decode (.object fields) = .ok schema ↔ ∃ type required properties,
      get? fields "type" = some (.string type) ∧
      Reads requiredOf [] (get? fields "required") required ∧
      Reads propertiesOf [] (get? fields "properties") properties ∧
      Makes (get? fields "items") required properties type schema := by
  have hdecode : decode (.object fields) = .ok schema ↔ ∃ parts,
      ReadsParts fields .empty parts ∧ parts.toSchema = .ok schema := by
    simp only [← fromFields_eq_ok_iff h]
    rw [decode]
    cases fromFields fields .empty <;> simp
  have htypeOf : ∀ {found : Option Json} {type : String},
      Reads typeOf none found (some type) ↔ found = some (.string type) := by
    intro found type
    cases found with
    | none => simp [Reads]
    | some value => cases value <;> simp [Reads, typeOf, mistyped]
  rw [hdecode]
  constructor
  · rintro ⟨parts, hparts, hschema⟩
    obtain ⟨type, htype, hmakes⟩ := (toSchema_eq_ok_iff hparts.items).mp hschema
    refine ⟨type, _, _, htypeOf.mp ?_, hparts.required, hparts.properties, hmakes⟩
    rw [← htype]
    exact hparts.type
  · rintro ⟨type, required, properties, htype, hrequired, hproperties, hmakes⟩
    obtain ⟨items, hitems⟩ : ∃ items,
        Reads (fun value => .ok (itemsOf value)) .absent (get? fields "items") items := by
      cases get? fields "items" with
      | none => exact ⟨_, rfl⟩
      | some value => exact ⟨_, rfl⟩
    refine ⟨⟨some type, items, required, properties⟩,
      ⟨htypeOf.mpr htype, hitems, hrequired, hproperties⟩, ?_⟩
    exact (toSchema_eq_ok_iff hitems).mpr ⟨type, rfl, hmakes⟩

/-- Objects are read alike if what stands under the four names is. -/
theorem decode_congr {fields fields' : List (String × Json)} (h : (names fields).Nodup)
    (h' : (names fields').Nodup) (htype : get? fields "type" = get? fields' "type")
    (hrequired : get? fields "required" = get? fields' "required")
    (hitems : ∀ required properties type schema,
      Makes (get? fields "items") required properties type schema ↔
        Makes (get? fields' "items") required properties type schema)
    (hproperties : ∀ properties, Reads propertiesOf [] (get? fields "properties") properties ↔
      Reads propertiesOf [] (get? fields' "properties") properties) (schema : Schema) :
    decode (.object fields) = .ok schema ↔ decode (.object fields') = .ok schema := by
  rw [decode_object_eq_ok_iff h, decode_object_eq_ok_iff h']
  simp only [htype, hrequired, hitems, hproperties]

/-- In particular, objects with the same under the four names are read alike. -/
theorem decode_of_fieldNames {fields fields' : List (String × Json)} (h : (names fields).Nodup)
    (h' : (names fields').Nodup)
    (hsame : ∀ name ∈ fieldNames, get? fields name = get? fields' name) (schema : Schema) :
    decode (.object fields) = .ok schema ↔ decode (.object fields') = .ok schema := by
  refine decode_congr h h' (hsame _ (by decide)) (hsame _ (by decide)) (fun _ _ _ _ => ?_)
    (fun _ => ?_) schema
  · rw [hsame _ (by decide)]
  · rw [hsame _ (by decide)]

end Gatehouse.Schema
