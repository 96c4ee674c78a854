import Gatehouse.Json.Record
import Gatehouse.Rules.Error
import Gatehouse.Rules.Table
/-!
Rules documents: the written form of a table.

A document has `paths`: for each path an item with operations under the names of methods, in any
letter case. Other fields of an item are not operations. A path that is written twice has the
item that is written last, and so has a method that is written twice in different letter case.
-/

namespace Gatehouse.Rules

/-- A rules document: the items of its paths. -/
structure Document where
  paths : List (String × List (String × Json))

/-- The methods that rules are declared for. -/
def methods : List String :=
  ["get", "put", "post", "delete", "options", "head", "patch", "trace"]

namespace Document

/-! ## Reading -/

/-- Reads an item, a map of any values. The brackets of the document, of its paths and of the
item are open around the values. -/
def readItem : Json.Reader (List (String × Json)) :=
  Json.readFrom '\x7b'.toUInt8 "a map"
    (Json.readObject (Json.putField (Json.readValue (Json.maxDepth - 3))) [])

/-- Reads the item of one path. -/
def readPath (paths : List (String × List (String × Json))) (path : String) :
    Json.Reader (List (String × List (String × Json))) := fun bytes =>
  match Json.skipColon bytes with
  | .error e => .error e
  | .ok rest => Json.mapRead (Fields.put paths path) readItem rest

/-- The fields of a document. -/
def fields : List (Json.FieldReader Document) :=
  [⟨"paths", fun _ =>
    Json.mapRead Document.mk
      (Json.readFrom '\x7b'.toUInt8 "a map" (Json.readObject readPath []))⟩]

/-- Reads a document. -/
def read : Json.Reader Document :=
  Json.readRecord "struct RulesDocument" fields ⟨[]⟩

end Document

/-! ## Decoding -/

/-- The parameters that an operation declares. -/
def parametersOf : Json → Except Reason (List Json)
  | .object fields =>
    match Fields.get? fields "parameters" with
    | none => .ok []
    | some .null => .ok []
    | some (.array values) => .ok values
    | some _ => .error .parametersNotList
  | value => .error (.notAnObject value.typeName)

/-- The route that an operation describes. -/
def routeOf (path method : String) (operation : Json) : Except Error Route :=
  match parametersOf operation with
  | .error reason => .error (.operation path method reason)
  | .ok values =>
    match values.mapM Parameter.ofJson with
    | .error e => .error (.ofParameter path method e)
    | .ok parameters => .ok ⟨parameters⟩

/-- Adds what stands under one name of the item of a path. -/
def Table.addOperation (path : String) (table : Table) (field : String × Json) :
    Except Error Table :=
  let method := Ascii.lower field.1
  if method ∈ methods then
    match routeOf path method field.2 with
    | .error e => .error e
    | .ok route => .ok (table.insert path method route)
  else .ok table

/-- Adds the item of a path. -/
def Table.addItem (table : Table) (item : String × List (String × Json)) : Except Error Table :=
  item.2.foldlM (Table.addOperation item.1) table

/-- The table that a document describes. -/
def Table.ofDocument (document : Document) : Except Error Table :=
  document.paths.foldlM Table.addItem Table.empty

/-! ## Loading -/

/-- The table that a text describes. Errors of the text as a whole name its origin. -/
def Table.parseFrom (origin text : String) : Except Error Table :=
  match Json.readAll Document.read (Utf8.encode text) with
  | .error e => .error (.document origin e)
  | .ok document => Table.ofDocument document

/-- The table that a text of no file describes. -/
def Table.parse (text : String) : Except Error Table :=
  Table.parseFrom "<inline>" text

/-- The table that the file at a path describes. -/
def Table.load {m : Type → Type} [Monad m] (source : Files.Source m) (path : String) :
    m (Except Error Table) := do
  match ← source.readText path with
  | .error e => return .error (.unreadable path e)
  | .ok text => return Table.parseFrom path text

end Gatehouse.Rules
