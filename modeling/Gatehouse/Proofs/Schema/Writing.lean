import Gatehouse.Proofs.Schema.WellFormed
/-!
Schemas as they are written.

A schema is written as an object with its `type` and, where the type has parts, with these: the
`items` of an array, what is `required` of an object and its `properties`. A leaf of an unknown
type is written by the name of the type. So it is read back only if that is not the name of a
known type; the schemas without such leaves are the regular ones.

    schema.Regular  →  decode schema.toJson = .ok schema           (decode_toJson)
    decode value = .ok schema  →  schema.Regular                   (regular_decode)
-/

namespace Gatehouse.Schema

/-- The names of the known types. -/
def typeNames : List String :=
  ["string", "integer", "array", "object"]

/-- No leaf of an unknown type has the name of a known one, at any depth. As in a well-formed
schema, the properties of every object schema are sorted. -/
inductive Regular : Schema → Prop
  | string : Regular .string
  | integer : Regular .integer
  | unrecognized {typeName : String} : typeName ∉ typeNames → Regular (.unrecognized typeName)
  | array {items : Schema} : Regular items → Regular (.array items)
  | object {required : List String} {properties : List (String × Schema)} :
      Fields.Sorted properties → (∀ p ∈ properties, Regular p.2) →
      Regular (.object required properties)

mutual

/-- Writes a schema. -/
def toJson : Schema → Json
  | .string => .object [("type", .string "string")]
  | .integer => .object [("type", .string "integer")]
  | .unrecognized typeName => .object [("type", .string typeName)]
  | .array items => .object [("type", .string "array"), ("items", items.toJson)]
  | .object required properties =>
    .object [("type", .string "object"), ("required", .array (required.map .string)),
      ("properties", .object (propertiesToJson properties))]

/-- Writes the properties of an object schema. -/
def propertiesToJson : List (String × Schema) → List (String × Json)
  | [] => []
  | (name, schema) :: rest => (name, schema.toJson) :: propertiesToJson rest

end

/-! ## Reading back -/

/-- A schema is written as an object, and its type comes first. -/
theorem exists_toJson (schema : Schema) :
    ∃ parts, schema.toJson = .object (("type", .string schema.typeName) :: parts) := by
  cases schema <;> exact ⟨_, rfl⟩

theorem itemsOf_toJson (schema : Schema) :
    itemsOf schema.toJson = .schema (decode schema.toJson) := by
  obtain ⟨parts, hparts⟩ := exists_toJson schema
  simp [hparts, itemsOf]

theorem texts_map (names : List String) : texts (names.map .string) = .ok names := by
  induction names with
  | nil => rfl
  | cons name names ih => rw [List.map_cons, texts, ih, Except.map]

/-- The name of a type without parts is read as its leaf. -/
theorem decode_typeName {name : String} (harray : name ≠ "array") (hobject : name ≠ "object") :
    decode (.object [("type", .string name)]) = .ok (leaf name) := by
  simp only [decode, fromFields, typeOf, Parts.toSchema, harray, hobject, if_true, if_false]

theorem leaf_of_notMem {name : String} (hstring : name ≠ "string") (hinteger : name ≠ "integer") :
    leaf name = .unrecognized name := by
  unfold leaf
  rw [if_neg hstring, if_neg hinteger]

mutual

/-- A regular schema is read back. -/
theorem decode_toJson : ∀ schema : Schema, schema.Regular → decode schema.toJson = .ok schema
  | .string, _ => decode_typeName (by decide) (by decide)
  | .integer, _ => decode_typeName (by decide) (by decide)
  | .unrecognized typeName, h => by
    cases h with
    | unrecognized hname =>
      simp only [typeNames, List.mem_cons, List.not_mem_nil, or_false, not_or] at hname
      obtain ⟨hstring, hinteger, harray, hobject⟩ := hname
      rw [toJson, decode_typeName harray hobject, leaf_of_notMem hstring hinteger]
  | .array items, h => by
    cases h with
    | array hitems =>
      have hread := decode_toJson items hitems
      simp [toJson, decode, fromFields, typeOf, Parts.toSchema, itemsOf_toJson, hread]
  | .object required properties, h => by
    cases h with
    | object hsorted heach =>
      have hread := decodeAll_propertiesToJson properties [] hsorted heach
      simp [toJson, decode, fromFields, typeOf, requiredOf, texts_map, propertiesOf, hread,
        Parts.toSchema]

/-- Properties that are sorted are read back behind those that come before them. -/
theorem decodeAll_propertiesToJson :
    ∀ properties before : List (String × Schema), Fields.Sorted (before ++ properties) →
      (∀ p ∈ properties, p.2.Regular) →
      decodeAll (propertiesToJson properties) before = .ok (before ++ properties)
  | [], before, _, _ => by rw [propertiesToJson, decodeAll, List.append_nil]
  | (name, schema) :: rest, before, hsorted, heach => by
    have hread := decode_toJson schema (heach _ List.mem_cons_self)
    have hlast : Fields.putSorted before name schema = before ++ [(name, schema)] := by
      refine Fields.putSorted_of_forall_lt (fun other hother => ?_) schema
      unfold Fields.Sorted Fields.names at hsorted
      rw [List.map_append, List.pairwise_append] at hsorted
      exact hsorted.2.2 other hother name List.mem_cons_self
    have hsplit : before ++ (name, schema) :: rest = (before ++ [(name, schema)]) ++ rest := by
      rw [List.append_assoc, List.singleton_append]
    rw [propertiesToJson, decodeAll, hread]
    simp only [hlast]
    rw [hsplit] at hsorted ⊢
    exact decodeAll_propertiesToJson rest _ hsorted fun p hp =>
      heach p (List.mem_cons_of_mem _ hp)

end

/-! ## What is read -/

theorem regular_leaf {name : String} (harray : name ≠ "array") (hobject : name ≠ "object") :
    (leaf name).Regular := by
  unfold leaf
  split
  · exact .string
  · next hstring =>
    split
    · exact .integer
    · next hinteger =>
      refine .unrecognized ?_
      simp [typeNames, harray, hobject, hstring, hinteger]

theorem hereditary_regular : Hereditary Regular where
  leaf _ harray hobject := regular_leaf harray hobject
  array _ hitems := .array hitems
  object _ _ h := .object h.sorted h.each

/-- A schema that is read is regular. -/
theorem regular_decode {value : Json} {schema : Schema} (h : decode value = .ok schema) :
    schema.Regular :=
  hereditary_regular.of_decode value schema h

end Gatehouse.Schema
