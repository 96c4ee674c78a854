import Gatehouse.Json.Mismatch
import Gatehouse.Schema.Basic
/-!
Reading schemas from JSON values.

A schema is written as an object with a `type`, and with `items`, `required` and `properties`
where the type has a use for them. `required` and `properties` must have their form whatever the
type is, while `items` matters for arrays alone. Other fields are ignored. A list of the values
of these four fields, in this order, is read too; it must have the type and may stop after it.
-/

namespace Gatehouse.Schema

/-! ## Errors -/

/-- Why a value is not a schema. -/
inductive Error where
  | mismatch (m : Json.Mismatch)
  | missingType
  | missingItems
  | bareItems (name : String)
  | items (e : Error)

/-- The words before the reason why a schema could not be read. -/
def malformed (reason : String) : String :=
  "malformed schema fragment: " ++ reason

/-- The reason why a value is not a schema. An error in `items` is told as an error of a schema
of its own. -/
def Error.reason : Error → String
  | .mismatch m => m.message
  | .missingType => "schema fragment has no `type`"
  | .missingItems => "array schema has no `items`"
  | .bareItems name =>
    "array `items` must be a schema object, found bare type name `" ++ name ++ "`"
  | .items e => malformed e.reason

/-- The words for an error. -/
def Error.message (e : Error) : String :=
  malformed e.reason

/-- Fails, because a value has the wrong type. -/
def mistyped {α : Type} (value : Json) (expected : String) : Except Error α :=
  .error (.mismatch (Json.mistyped value expected))

/-! ## Parts -/

/-- What a written schema says about its items. -/
inductive Items where
  | absent
  | bare (name : String)
  | schema (decoded : Except Error Schema)

/-- The parts of a written schema. -/
structure Parts where
  type : Option String
  items : Items
  required : List String
  properties : List (String × Schema)

/-- The parts when nothing is written. -/
def Parts.empty : Parts :=
  ⟨none, .absent, [], []⟩

/-- The schema that the parts describe. -/
def Parts.toSchema (parts : Parts) : Except Error Schema :=
  match parts.type with
  | none => .error .missingType
  | some type =>
    if type = "array" then
      match parts.items with
      | .absent => .error .missingItems
      | .bare name => .error (.bareItems name)
      | .schema (.ok items) => .ok (.array items)
      | .schema (.error e) => .error (.items e)
    else if type = "object" then .ok (.object parts.required parts.properties)
    else .ok (leaf type)

/-- The type name of a written schema; `null` is none. -/
def typeOf : Json → Except Error (Option String)
  | .null => .ok none
  | .string s => .ok (some s)
  | v => mistyped v "a string"

/-- A list of strings. -/
def texts : List Json → Except Error (List String)
  | [] => .ok []
  | .string s :: rest => (texts rest).map (s :: ·)
  | v :: _ => mistyped v "a string"

/-- The names of the fields that an object must have. -/
def requiredOf : Json → Except Error (List String)
  | .array names => texts names
  | v => mistyped v "a sequence"

/-! ## Decoding -/

mutual

/-- The schema that a value describes. -/
def decode : Json → Except Error Schema
  | .object fields =>
    match fromFields fields .empty with
    | .error e => .error e
    | .ok parts => parts.toSchema
  | .array values =>
    match fromList values with
    | .error e => .error e
    | .ok parts => parts.toSchema
  | v => mistyped v "struct RawFragment"

/-- Takes up the fields of a written schema, in their order. -/
def fromFields : List (String × Json) → Parts → Except Error Parts
  | [], parts => .ok parts
  | (key, value) :: rest, parts =>
    if key = "type" then
      match typeOf value with
      | .error e => .error e
      | .ok type => fromFields rest { parts with type := type }
    else if key = "items" then
      fromFields rest { parts with items := itemsOf value }
    else if key = "required" then
      match requiredOf value with
      | .error e => .error e
      | .ok names => fromFields rest { parts with required := names }
    else if key = "properties" then
      match propertiesOf value with
      | .error e => .error e
      | .ok properties => fromFields rest { parts with properties := properties }
    else fromFields rest parts

/-- The parts of a schema that is written as a list. -/
def fromList : List Json → Except Error Parts
  | [] => .error (.mismatch (.invalidLength 0 "struct RawFragment with 4 elements"))
  | [type] => do return { Parts.empty with type := ← typeOf type }
  | [type, items] => do return { Parts.empty with type := ← typeOf type, items := itemsOf items }
  | [type, items, required] => do
    return { Parts.empty with
      type := ← typeOf type, items := itemsOf items, required := ← requiredOf required }
  | type :: items :: required :: properties :: rest => do
    let parts : Parts := {
      type := ← typeOf type, items := itemsOf items, required := ← requiredOf required,
      properties := ← propertiesOf properties }
    if rest.isEmpty then return parts
    else throw (.mismatch (.invalidLength (rest.length + 4) "fewer elements in array"))

/-- What a value says about items; `null` says nothing. -/
def itemsOf : Json → Items
  | .null => .absent
  | .string name => .bare name
  | v => .schema (decode v)

/-- The schemas of the properties of an object. -/
def propertiesOf : Json → Except Error (List (String × Schema))
  | .object fields => decodeAll fields []
  | v => mistyped v "a map"

/-- Adds the schemas that the fields describe, in their order. -/
def decodeAll : List (String × Json) → List (String × Schema) →
    Except Error (List (String × Schema))
  | [], properties => .ok properties
  | (name, value) :: rest, properties =>
    match decode value with
    | .error e => .error e
    | .ok schema => decodeAll rest (Fields.putSorted properties name schema)

end

end Gatehouse.Schema
