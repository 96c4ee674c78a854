import Gatehouse.Files
import Gatehouse.Json.Failure
import Gatehouse.Rules.Parameter
/-!
Why rules could not be loaded.
-/

namespace Gatehouse.Rules

/-- What is wrong with an operation, the schemas of its parameters aside. -/
inductive Reason where
  | notAnObject (typeName : String)
  | parametersNotList
  | parameter (m : Json.Mismatch)

/-- The words for what is wrong with an operation. -/
def Reason.message : Reason → String
  | .notAnObject typeName => "operation must be an object, found " ++ typeName
  | .parametersNotList => "`parameters` must be a list"
  | .parameter m => m.message

/-- Why rules could not be loaded. -/
inductive Error where
  | unreadable (path : String) (e : Files.ReadError)
  | document (path : String) (e : Json.Error)
  | operation (path method : String) (reason : Reason)
  | schema (parameter : String) (e : Schema.Error)

/-- The words for an error. -/
def Error.message : Error → String
  | .unreadable path e => "failed to read rules file '" ++ path ++ "': " ++ e.message
  | .document path e => "invalid rules document '" ++ path ++ "': " ++ e.message
  | .operation path method reason =>
    "invalid rule for " ++ method ++ " " ++ path ++ ": " ++ reason.message
  | .schema parameter e =>
    "invalid schema for parameter `" ++ parameter ++ "`: " ++ e.message

/-- The error of a parameter of the given path and method. -/
def Error.ofParameter (path method : String) : Parameter.Error → Error
  | .malformed m => .operation path method (.parameter m)
  | .schema parameter e => .schema parameter e

end Gatehouse.Rules
