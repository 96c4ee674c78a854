import Gatehouse.Check.Descriptor
import Gatehouse.Check.Outcome
import Gatehouse.Rules.Table
/-!
Checking a request against a table of rules.

A path and method without rules is let through. Else the entries of the query are checked in
their order, then the body, and the first violation decides.
-/

namespace Gatehouse

open Check (Descriptor Rejection Outcome)

namespace Rules

/-- What an entry of the query violates. -/
def Route.entryViolation? (route : Route) (entry : String × Json) : Option Rejection :=
  match route.query? entry.1 with
  | none => some (.unknownQueryParameter entry.1)
  | some parameter =>
    match parameter.schema with
    | none => some (.invalidQueryParameterType entry.1)
    | some schema =>
      if schema.accepts entry.2 then none else some (.invalidQueryParameterType entry.1)

/-- The first violation among the entries of a query. -/
def Route.queryViolation? (route : Route) (query : List (String × Json)) : Option Rejection :=
  query.findSome? route.entryViolation?

/-- What the body violates. -/
def Route.bodyViolation? (route : Route) (request : Descriptor) : Option Rejection :=
  match route.bodySchema with
  | none => if request.hasBlankBody then none else some .bodyNotPermitted
  | some schema => if schema.accepts request.effectiveBody then none else some .invalidBody

/-- The first violation of the rules of a route. -/
def Route.violation? (route : Route) (request : Descriptor) : Option Rejection :=
  match route.queryViolation? request.query with
  | some rejection => some rejection
  | none => route.bodyViolation? request

/-- The outcome of a request under a table of rules. -/
def Table.check (table : Table) (request : Descriptor) : Outcome :=
  match table.get? request.path request.method with
  | none => .accepted
  | some route =>
    match route.violation? request with
    | none => .accepted
    | some rejection => .rejected rejection

end Rules

end Gatehouse
