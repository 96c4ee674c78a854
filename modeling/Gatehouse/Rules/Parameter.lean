import Gatehouse.Schema.Decode
/-!
Parameters: what a rule declares about one part of a request.

A parameter is written as an object. Its schema stands under `schema`, or inline: then `type`,
`items` and `properties` of the parameter itself are the schema's, and so is `required` if it is
a list (else it says whether the parameter is required, which is not enforced). A schema with
nothing in it is no schema.
-/

namespace Gatehouse.Rules

/-- Where in a request a parameter is. -/
inductive Location where
  | query
  | body
  | other
  deriving Repr, DecidableEq

/-- The location that a rule names. -/
def Location.ofName (name : String) : Location :=
  if name = "query" then .query
  else if name = "body" then .body
  else .other

/-- A declared parameter. -/
structure Parameter where
  name : String
  location : Location
  schema : Option Schema

namespace Parameter

/-- A parameter in the query. -/
def query (name : String) (schema : Schema) : Parameter :=
  ⟨name, .query, some schema⟩

/-- A body. -/
def body (schema : Schema) : Parameter :=
  ⟨"", .body, some schema⟩

/-! ## Errors -/

/-- Why a value is not a parameter: it has the wrong form, or the schema of the named parameter
is not a schema. -/
inductive Error where
  | malformed (m : Json.Mismatch)
  | schema (name : String) (e : Schema.Error)

/-! ## Decoding -/

/-- The location that a value describes: a name, or an object with `null` under a name. -/
def locationOf : Json → Except Json.Mismatch Location
  | .string name => .ok (.ofName name)
  | .object [(name, .null)] => .ok (.ofName name)
  | .object [(_, value)] => .error (Json.mistyped value "unit")
  | .object _ => .error (.invalidValue .map "map with a single key")
  | value => .error (Json.mistyped value "string or map")

/-- The fields of a written parameter that have a form of their own. -/
structure Parts where
  name : String
  location : Option Location
  schema : Option Json

/-- The parts when nothing is written. -/
def Parts.empty : Parts :=
  ⟨"", none, none⟩

/-- Takes up one field of a written parameter. -/
def Parts.add (parts : Parts) (field : String × Json) : Except Json.Mismatch Parts :=
  match field with
  | ("name", .string name) => .ok { parts with name }
  | ("name", value) => .error (Json.mistyped value "a string")
  | ("in", value) => (locationOf value).map fun location => { parts with location }
  | ("schema", .null) => .ok { parts with schema := none }
  | ("schema", value) => .ok { parts with schema := some value }
  | _ => .ok parts

/-- The schema that is written inline among the fields of a parameter. -/
def inlineSchema (fields : List (String × Json)) : Json :=
  let own := ["type", "items", "properties"].filterMap fun name =>
    (Fields.get? fields name).map fun value => (name, value)
  match Fields.get? fields "required" with
  | some (.array names) => .object (own ++ [("required", .array names)])
  | _ => .object own

/-- The schema that a value describes, if it says anything. -/
def schemaOf : Json → Except Schema.Error (Option Schema)
  | .null => .ok none
  | .object [] => .ok none
  | value => (Schema.decode value).map some

/-- The parameter that a value describes. -/
def ofJson : Json → Except Error Parameter
  | .object fields =>
    match fields.foldlM Parts.add Parts.empty with
    | .error m => .error (.malformed m)
    | .ok parts =>
      match parts.location with
      | none => .error (.malformed (.missingField "in"))
      | some location =>
        match schemaOf (parts.schema.getD (inlineSchema fields)) with
        | .error e => .error (.schema parts.name e)
        | .ok schema => .ok ⟨parts.name, location, schema⟩
  | value => .error (.malformed (Json.mistyped value "struct RawParameter"))

end Parameter

end Gatehouse.Rules
