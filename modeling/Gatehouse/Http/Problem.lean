import Gatehouse.Check.Outcome
import Gatehouse.Http.Message
import Gatehouse.Json.Printer
/-!
Why a request is refused, as an answer tells it.
-/

namespace Gatehouse.Http

/-- Why a request is refused. -/
inductive Problem where
  | badRequest (text : String)
  | malformedBody (text : String)
  | malformedQuery (text : String)
  | payloadTooLarge (limit : Nat)
  deriving Repr, DecidableEq

namespace Problem

/-- The problem of a request that violates its rules. -/
def ofRejection (rejection : Check.Rejection) : Problem :=
  .badRequest rejection.message

/-- The HTTP status. -/
def status : Problem → Nat
  | .payloadTooLarge _ => 413
  | _ => 400

/-- The words for a problem. -/
def message : Problem → String
  | .badRequest text => text
  | .malformedBody text => "malformed request body: " ++ text
  | .malformedQuery text => "malformed query string: " ++ text
  | .payloadTooLarge limit => "request body exceeds " ++ toString limit ++ " bytes"

/-- A problem as a JSON value. -/
def toJson (problem : Problem) : Json :=
  .object [("error", .object [
    ("msg", .string problem.message), ("status", .number (.whole problem.status))])]

/-- The answer that tells a problem. -/
def response (problem : Problem) : Response :=
  .ofText problem.status "application/json" problem.toJson.text

end Problem

end Gatehouse.Http
