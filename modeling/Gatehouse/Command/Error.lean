import Gatehouse.Check.Outcome
import Gatehouse.Rules.Error
import Gatehouse.Server.Config
/-!
Why a command fails.
-/

namespace Gatehouse.Command

/-- The codes that failures are told by. -/
inductive ErrorCode where
  | config
  | rules
  | argument
  | rejected
  | server
  | io
  deriving Repr, DecidableEq

namespace ErrorCode

/-- The text of a code. -/
def text : ErrorCode → String
  | .config => "ROUTEGUARD_CONFIG_ERROR"
  | .rules => "ROUTEGUARD_RULES_ERROR"
  | .argument => "ROUTEGUARD_INVALID_ARGUMENT"
  | .rejected => "ROUTEGUARD_REJECTED"
  | .server => "ROUTEGUARD_SERVER_FAILED"
  | .io => "ROUTEGUARD_IO_ERROR"

/-- The line that tells a failure. -/
def line (code : ErrorCode) (message : String) : String :=
  code.text ++ ": " ++ message

end ErrorCode

/-- Why a command fails. -/
inductive Error where
  | config (e : Server.Config.Error)
  | rules (e : Rules.Error)
  | queryArgument (text : String)
  | bodyArgument (e : Json.Error)
  | rejected (rejection : Check.Rejection)
  | address (text : String)
  | listening (text : String)
  | io (text : String)

namespace Error

/-- The code of a failure. -/
def code : Error → ErrorCode
  | .config _ => .config
  | .rules _ => .rules
  | .queryArgument _ => .argument
  | .bodyArgument _ => .argument
  | .rejected _ => .rejected
  | .address _ => .server
  | .listening _ => .server
  | .io _ => .io

/-- The words for a failure. -/
def message : Error → String
  | .config e => e.message
  | .rules e => e.message
  | .queryArgument text => "query parameter '" ++ text ++ "' must look like NAME=VALUE"
  | .bodyArgument e => "--body is not JSON: " ++ e.message
  | .rejected rejection => rejection.message
  | .address text =>
    "HTTP server failed: invalid socket address '" ++ text ++ "': invalid socket address syntax"
  | .listening text => "HTTP server failed: " ++ text
  | .io text => text

/-- The line that tells a failure. -/
def line (e : Error) : String :=
  e.code.line e.message

end Error

end Gatehouse.Command
