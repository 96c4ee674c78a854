/-!
Why a command line is not carried out.
-/

namespace Gatehouse.Command

/-- Why a command line names nothing to do. -/
inductive Usage where
  | help
  | version
  | helpOnMissing
  | missingSubcommand
  | invalidSubcommand
  | unknownArgument
  | invalidValue
  | valueValidation
  | tooManyValues
  | argumentConflict
  | missingRequired
  deriving Repr, DecidableEq

namespace Usage

/-- The name of the kind of usage error. -/
def kind : Usage → String
  | .help => "DisplayHelp"
  | .version => "DisplayVersion"
  | .helpOnMissing => "DisplayHelpOnMissingArgumentOrSubcommand"
  | .missingSubcommand => "MissingSubcommand"
  | .invalidSubcommand => "InvalidSubcommand"
  | .unknownArgument => "UnknownArgument"
  | .invalidValue => "InvalidValue"
  | .valueValidation => "ValueValidation"
  | .tooManyValues => "TooManyValues"
  | .argumentConflict => "ArgumentConflict"
  | .missingRequired => "MissingRequiredArgument"

/-- The exit status: what was asked for is no error. -/
def exitStatus : Usage → Nat
  | .help => 0
  | .version => 0
  | _ => 2

/-- The words for the kind of usage error. -/
def explanation : Usage → String
  | .help => "help was asked for"
  | .version => "the version was asked for"
  | .helpOnMissing => "nothing was asked for"
  | .missingSubcommand => "a command is missing"
  | .invalidSubcommand => "there is no such command"
  | .unknownArgument => "an argument is not known"
  | .invalidValue => "an option has no value, or one that must not be empty is"
  | .valueValidation => "the value of an option is not valid"
  | .tooManyValues => "a flag has a value"
  | .argumentConflict => "an option or flag is given twice"
  | .missingRequired => "an option that is required is missing"

/-- How the program is used. -/
def synopsis : String :=
  "Usage: routeguard [-v]... [--log-json] <COMMAND>\n\n" ++
  "Commands:\n" ++
  "  serve   [--config FILE] [--rules FILE] [--host HOST] [--port PORT]\n" ++
  "  check   --path PATH [--method METHOD] [--query NAME=VALUE]... [--body JSON] [--rules FILE]\n" ++
  "  routes  [--rules FILE]\n" ++
  "  help    [COMMAND]\n"

end Usage

end Gatehouse.Command
