import Gatehouse.Rules.Table
/-!
The listing of a table: one line for each route.
-/

namespace Gatehouse.Rules

/-- How wide the column of the methods is at least. -/
def methodWidth : Nat := 7

/-- Fills a text with spaces up to a width. -/
def padTo (width : Nat) (s : String) : String :=
  s ++ String.ofList (List.replicate (width - s.length) ' ')

/-- The names of the query parameters, with commas between them. -/
def queryColumn (names : List String) : String :=
  if names.isEmpty then "-" else ",".intercalate names

/-- The line of a route. -/
def Entry.line (entry : Entry) : String :=
  padTo methodWidth (Ascii.upper entry.method) ++ " " ++ entry.path ++
    "  query=" ++ queryColumn entry.route.queryNames ++
    "  body=" ++ (if entry.route.bodySchema.isSome then "yes" else "no")

/-- The lines of a table, in its order. -/
def Table.lines (table : Table) : List String :=
  table.entries.map Entry.line

end Gatehouse.Rules
