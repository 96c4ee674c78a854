import Gatehouse.Http.Guard
import Gatehouse.Http.Origins
import Gatehouse.Server.Config
/-!
The gateway: the answers of a server.

The path `/health` answers `GET` and `HEAD` requests; any other path answers every request that
passes the guard with its method and path. The rules for origins are around the guard.
-/

namespace Gatehouse.Http

/-- The version that the server tells. -/
def version : String := "0.1.0"

/-- The path that tells whether the server is up. -/
def healthPath : String := "/health"

/-- The answer that the server is up. -/
def healthy : Response :=
  .ofText 200 "application/json"
    (Json.object [("status", .string "ok"), ("version", .string version)]).text

/-- The answer to a request that has passed. -/
def passed (request : Request) : Response :=
  .ofText 200 "application/json"
    (Json.object [("status", .string "accepted"), ("method", .string request.method),
      ("path", .string request.uri.path)]).text

/-- What is behind the guard. -/
def endpoint : Handler := fun request =>
  if request.uri.path ≠ healthPath then passed request
  else if request.method = "GET" ∨ request.method = "HEAD" then healthy
  else .ofStatus 405

/-- Finishes an answer for the path `/health`: the answer to a `HEAD` request loses its body, and
the answer to a method that is not for this path tells which methods are. -/
def finish (request : Request) (response : Response) : Response :=
  if request.uri.path ≠ healthPath ∨ request.method = "GET" then response
  else if request.method = "HEAD" then { response with body := [] }
  else response.addText "allow" "GET,HEAD"

/-- A gateway. -/
structure Gateway where
  origins : Origins
  guard : Guard

namespace Gateway

/-- The gateway of a configuration. There is none if the list of origins holds `*`. -/
def ofConfig? (config : Server.Config) (table : Rules.Table) : Option Gateway :=
  (Origins.ofList? config.origins).map fun origins => ⟨origins, ⟨table, config.bodyLimit⟩⟩

/-- The answers of a gateway. -/
def handler (gateway : Gateway) : Handler := fun request =>
  finish request (gateway.origins.wrap (gateway.guard.wrap endpoint) request)

end Gateway

end Gatehouse.Http
