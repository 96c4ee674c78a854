import Gatehouse.Json.Basic
/-!
What is checked of a request: its method, its path, its query and its body.
-/

namespace Gatehouse.Check

/-- A request as the rules see it. The path is in two parts, which are joined as they are. -/
structure Descriptor where
  method : String
  basePath : String
  subPath : String
  query : List (String × Json)
  body : Option Json

namespace Descriptor

/-- The descriptor in which everything is empty. -/
def empty : Descriptor :=
  ⟨"", "", "", [], none⟩

/-- A request without query and body. -/
def new (method basePath subPath : String) : Descriptor :=
  ⟨method, basePath, subPath, [], none⟩

/-- Sets one query entry, in its place if the name is there. -/
def setQuery (request : Descriptor) (name : String) (value : Json) : Descriptor :=
  { request with query := Fields.put request.query name value }

/-- The whole path. -/
def path (request : Descriptor) : String :=
  request.basePath ++ request.subPath

/-- There is no body, or one that counts as no content. -/
def hasBlankBody (request : Descriptor) : Bool :=
  match request.body with
  | none => true
  | some body => body.isBlank

/-- The value that a schema for the body is asked about: a body that is missing or `null` counts
as an object without fields. -/
def effectiveBody (request : Descriptor) : Json :=
  match request.body with
  | none => .object []
  | some .null => .object []
  | some body => body

end Descriptor

end Gatehouse.Check
