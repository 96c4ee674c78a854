import Gatehouse.Json.Basic
/-!
Schemas: descriptions of the values that a parameter may have.

A schema is a tree. A leaf asks for a string or for an integer, or names a type that is not
known, which no value has. An array has one schema for all its items. An object has a schema for
each field it may have, and a list of the fields it must have; it is closed, so a field without
a schema is refused.
-/

namespace Gatehouse

/-- A schema. The properties of an object schema stand in increasing order of their names. -/
inductive Schema where
  | string
  | integer
  | unrecognized (typeName : String)
  | array (items : Schema)
  | object (required : List String) (properties : List (String × Schema))

namespace Schema

/-- The name of the type, as rules write it. -/
def typeName : Schema → String
  | .string => "string"
  | .integer => "integer"
  | .unrecognized name => name
  | .array _ => "array"
  | .object _ _ => "object"

/-- The leaf for a type name. -/
def leaf (name : String) : Schema :=
  if name = "string" then .string
  else if name = "integer" then .integer
  else .unrecognized name

/-! ## Building object schemas -/

/-- What an object schema is made of. -/
structure Shape where
  required : List String
  properties : List (String × Schema)

namespace Shape

/-- The shape without properties. -/
def empty : Shape := ⟨[], []⟩

/-- Adds a property that must be present. A schema given before for the name is replaced. -/
def require (shape : Shape) (name : String) (schema : Schema) : Shape :=
  ⟨shape.required ++ [name], Fields.putSorted shape.properties name schema⟩

/-- Adds a property that may be absent. A schema given before for the name is replaced; the name
stays required if it was. -/
def allow (shape : Shape) (name : String) (schema : Schema) : Shape :=
  ⟨shape.required, Fields.putSorted shape.properties name schema⟩

/-- The object schema of a shape. -/
def toSchema (shape : Shape) : Schema :=
  .object shape.required shape.properties

end Shape

/-! ## Acceptance -/

mutual

/-- The value satisfies the schema. -/
def accepts : Schema → Json → Bool
  | .string, value => value.isString
  | .integer, value => value.isIntegerLike
  | .unrecognized _, _ => false
  | .array items, value =>
    match value with
    | .array values => values.all fun v => accepts items v
    | _ => false
  | .object required properties, value =>
    match value with
    | .object fields =>
      Fields.hasAll required fields &&
        (!Fields.hasUndeclared properties fields && acceptsPresent properties fields)
    | _ => false

/-- Each property that is among the fields satisfies its schema. -/
def acceptsPresent : List (String × Schema) → List (String × Json) → Bool
  | [], _ => true
  | (name, schema) :: rest, fields =>
    (match Fields.get? fields name with
      | some value => accepts schema value
      | none => true) && acceptsPresent rest fields

end

end Schema

end Gatehouse
