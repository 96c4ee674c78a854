import Gatehouse.Check.Violation
import Gatehouse.Json.Printer
import Gatehouse.Log.Level
import Gatehouse.Text.Quoted
/-!
Log events, as lines of text and as JSON.
-/

namespace Gatehouse.Log

/-- What is logged. -/
inductive Event where
  | tableLoaded (path : String) (routes : Nat)
  | requestRejected (method path : String) (rejection : Check.Rejection)
  | passedThrough (method path : String)

namespace Event

/-- The importance of an event. -/
def level : Event → Level
  | .tableLoaded _ _ => .info
  | .requestRejected _ _ _ => .warn
  | .passedThrough _ _ => .debug

/-- The name of the part of the program that an event comes from. -/
def source : Event → String
  | .tableLoaded _ _ => "routeguard::rules::loader"
  | .requestRejected _ _ _ => "routeguard::dispatch::dispatcher"
  | .passedThrough _ _ => "routeguard::dispatch::dispatcher"

/-- What happened. -/
def message : Event → String
  | .tableLoaded _ _ => "rule table loaded"
  | .requestRejected _ _ _ => "request rejected"
  | .passedThrough _ _ => "no rules for route, passing through"

/-- The particulars of an event, as a line shows them. -/
def details : Event → String
  | .tableLoaded path routes => "path=" ++ path ++ " routes=" ++ toString routes
  | .requestRejected method path rejection =>
    "method=" ++ method ++ " path=" ++ path ++ " kind=" ++ Text.quoted rejection.kind ++
      " reason=" ++ rejection.message
  | .passedThrough method path => "method=" ++ method ++ " path=" ++ path

/-- The particulars of an event, as fields. -/
def fields : Event → List (String × Json)
  | .tableLoaded path routes =>
    [("path", .string path), ("routes", .number (.whole routes))]
  | .requestRejected method path rejection =>
    [("method", .string method), ("path", .string path), ("kind", .string rejection.kind),
      ("reason", .string rejection.message)]
  | .passedThrough method path => [("method", .string method), ("path", .string path)]

/-- An event as a line. -/
def line (event : Event) : String :=
  Ascii.upper event.level.name ++ " " ++ event.message ++ " " ++ event.details

/-- All fields of an event: what happened, and the particulars. -/
def allFields (event : Event) : List (String × Json) :=
  ("message", .string event.message) :: event.fields

/-- An event as a JSON value. -/
def toJson (event : Event) : Json :=
  .object [("level", .string (Ascii.upper event.level.name)), ("fields", .object event.allFields)]

/-- The events of checking a request against a table. -/
def ofCheck (table : Rules.Table) (request : Check.Descriptor) : List Event :=
  let method := Ascii.lower request.method
  match table.get? request.path request.method with
  | none => [.passedThrough method request.path]
  | some _ =>
    match table.check request with
    | .accepted => []
    | .rejected rejection => [.requestRejected method request.path rejection]

end Event

end Gatehouse.Log
