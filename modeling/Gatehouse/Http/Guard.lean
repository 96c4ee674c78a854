import Gatehouse.Check.Violation
import Gatehouse.Http.Body
/-!
The guard in front of a handler.

A request is refused if its declared length or its body is over the limit, if its body cannot be
decoded, or if it violates the rules for its method and the path that came in. Any other request
is handed on as it is.
-/

namespace Gatehouse.Http

/-- The largest length that a header can declare. -/
def maxDeclaredLength : Nat := Nat.pow 2 64 - 1

/-- The length that the first `content-length` header declares, if it is a number. -/
def Headers.contentLength? (headers : Headers) : Option Nat :=
  match headers.text? "content-length" with
  | none => none
  | some text => Ascii.unsigned? maxDeclaredLength text.toList

/-- A guard. -/
structure Guard where
  table : Rules.Table
  bodyLimit : Nat

namespace Guard

/-- The declared length is over the limit. -/
def declaresTooMuch (guard : Guard) (headers : Headers) : Bool :=
  match headers.contentLength? with
  | none => false
  | some length => length > guard.bodyLimit

/-- The bytes of a body, all of which are read, if they are within the limit. -/
def collect? (guard : Guard) (body : List UInt8) : Option (List UInt8) :=
  if body.length > guard.bodyLimit then none else some body

/-- What is checked of a request whose body has the given value. -/
def descriptor (request : Request) (body : Option Json) : Check.Descriptor :=
  ⟨request.method, "", request.received.path, Query.ofUri request.uri, body⟩

/-- The request that is handed on, or why it is refused. The bytes that were read for the check
become its body again. -/
def handOn (guard : Guard) (request : Request) : Except Problem Request :=
  if guard.declaresTooMuch request.headers then .error (.payloadTooLarge guard.bodyLimit)
  else
    match guard.collect? request.body with
    | none => .error (.payloadTooLarge guard.bodyLimit)
    | some bytes =>
      match Body.parse request.headers bytes with
      | .error problem => .error problem
      | .ok body =>
        match guard.table.check (descriptor request body) with
        | .accepted => .ok { request with body := bytes }
        | .rejected rejection => .error (.ofRejection rejection)

/-- The handler behind the guard. -/
def wrap (guard : Guard) (inner : Handler) : Handler := fun request =>
  match guard.handOn request with
  | .error problem => problem.response
  | .ok request => inner request

end Guard

end Gatehouse.Http
