import Gatehouse.Http.Form
import Gatehouse.Http.Uri
import Gatehouse.Json.Basic
/-!
Named values out of pairs of texts.

A name that is given once has a string. A name that is given more often, or with `[]` behind it,
has the list of its strings. Names keep the order in which they come first.
-/

namespace Gatehouse.Http.Query

/-- A key without one `[]` at its end, and whether it had that. -/
def splitKey (key : String) : String × Bool :=
  if ['[', ']'].isSuffixOf key.toList then (String.ofList (key.toList.dropLast.dropLast), true)
  else (key, false)

/-- Adds one more value under a name. -/
def merge (before : Option Json) (many : Bool) (value : String) : Json :=
  match before with
  | some (.array values) => .array (values ++ [.string value])
  | some first => .array [first, .string value]
  | none => if many then .array [.string value] else .string value

/-- Adds a pair. -/
def addPair (fields : List (String × Json)) (pair : String × String) : List (String × Json) :=
  let (name, many) := splitKey pair.1
  Fields.put fields name (merge (Fields.get? fields name) many pair.2)

/-- The named values of pairs. -/
def ofPairs (pairs : List (String × String)) : List (String × Json) :=
  pairs.foldl addPair []

/-- The named values of the query of a target. -/
def ofUri (uri : Uri) : List (String × Json) :=
  ofPairs (Form.pairs (Utf8.encode (uri.query.getD "")))

end Gatehouse.Http.Query
