import Gatehouse.Rules.Parameter
/-!
The rules of one operation: its parameters, in the order in which they are declared.

Of several query parameters of one name the first counts, and so does the first body.
-/

namespace Gatehouse.Rules

/-- What is declared for one method on one path. -/
structure Route where
  parameters : List Parameter

namespace Route

/-- The route without parameters. -/
def empty : Route := ⟨[]⟩

/-- The parameters in the query. -/
def queryParameters (route : Route) : List Parameter :=
  route.parameters.filter (·.location = .query)

/-- The names of the parameters in the query. -/
def queryNames (route : Route) : List String :=
  route.queryParameters.map Parameter.name

/-- The parameter that counts for a name in the query. -/
def query? (route : Route) (name : String) : Option Parameter :=
  route.queryParameters.find? (·.name = name)

/-- The schema of the first body, if it has one. -/
def bodySchema (route : Route) : Option Schema :=
  (route.parameters.find? (·.location = .body)).bind Parameter.schema

end Route

end Gatehouse.Rules
