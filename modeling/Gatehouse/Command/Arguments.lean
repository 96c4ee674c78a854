import Gatehouse.Command.Usage
import Gatehouse.Server.Config
/-!
The arguments of the command line.

Flags for the log may stand before and behind the name of a command; behind it stand the options
of the command. An option has its value behind an `=` or as the next argument, if that does not
start with a dash. A value of its own is looked at only when the next known flag or option comes,
or at the end; an argument that is not known is reported at once.
-/

namespace Gatehouse.Command

/-! ## Tasks -/

/-- What the program is asked to do. -/
inductive Task where
  | serve (config : Option String) (overrides : Server.Config.Overrides)
  | check (rules method path : String) (query : List String) (body : Option String)
  | routes (rules : String)
  deriving Repr, DecidableEq

/-- A task, with the wishes for the log. -/
structure Invocation where
  verbosity : Nat
  logJson : Bool
  task : Task
  deriving Repr, DecidableEq

/-- The names of the commands. -/
inductive Verb where
  | serve
  | check
  | routes
  deriving Repr, DecidableEq

/-- The command of a name. -/
def Verb.ofName? (name : String) : Option Verb :=
  if name = "serve" then some .serve
  else if name = "check" then some .check
  else if name = "routes" then some .routes
  else none

/-- The name that asks for help. -/
def helpName : String := "help"

/-! ## Options -/

/-- What the value of an option must be. -/
inductive ValueKind where
  | text
  | path
  | port
  deriving Repr, DecidableEq

/-- An option of a command. -/
structure OptionSpec where
  name : String
  kind : ValueKind
  repeatable : Bool
  deriving Repr, DecidableEq

/-- The options of a command. -/
def Verb.options : Verb → List OptionSpec
  | .serve =>
    [⟨"config", .path, false⟩, ⟨"rules", .path, false⟩, ⟨"host", .text, false⟩,
      ⟨"port", .port, false⟩]
  | .check =>
    [⟨"rules", .path, false⟩, ⟨"method", .text, false⟩, ⟨"path", .text, false⟩,
      ⟨"query", .text, true⟩, ⟨"body", .text, false⟩]
  | .routes => [⟨"rules", .path, false⟩]

/-- The port that the value of an option names: a decimal number with an optional sign. -/
def portValue? (value : String) : Option Nat :=
  match value.toList with
  | '-' :: ds => if Ascii.isDigits ds && Ascii.natOfDigits ds = 0 then some 0 else none
  | cs => Ascii.unsigned? Server.maxPort cs

/-- What is wrong with the value of an option. -/
def ValueKind.fault? (kind : ValueKind) (value : String) : Option Usage :=
  match kind with
  | .text => none
  | .path => if value.isEmpty then some .invalidValue else none
  | .port => if (portValue? value).isNone then some .valueValidation else none

/-! ## Arguments -/

/-- What an argument looks like. -/
inductive Shape where
  | escape
  | long (name : String) (value : Option String)
  | short (letters : List Char)
  | plain (text : String)

/-- The shape of an argument. -/
def Shape.ofText (text : String) : Shape :=
  match text.toList with
  | ['-', '-'] => .escape
  | '-' :: '-' :: rest =>
    .long (String.ofList (rest.takeWhile (· != '=')))
      (match rest.dropWhile (· != '=') with
        | [] => none
        | _ :: value => some (String.ofList value))
  | '-' :: c :: rest => .short (c :: rest)
  | _ => .plain text

/-- An option that has come, of which the value has not been looked at. -/
structure Pending where
  option : OptionSpec
  value : Option String

/-- What has been taken up of a command line. -/
structure Taken where
  verbosity : Nat
  logJson : Bool
  values : List (String × String)
  pending : Option Pending

/-- Nothing has been taken up. -/
def Taken.nothing : Taken :=
  ⟨0, false, [], none⟩

/-- The most that verbosity can be. -/
def maxVerbosity : Nat := 255

namespace Taken

/-- The values given for an option, in order. -/
def valuesOf (taken : Taken) (name : String) : List String :=
  taken.values.filterMap fun (n, value) => if n = name then some value else none

/-- The last value given for an option. -/
def value? (taken : Taken) (name : String) : Option String :=
  (taken.valuesOf name).getLast?

/-- Looks at the value of the option that is pending. -/
def settle (taken : Taken) : Except Usage Taken :=
  match taken.pending with
  | none => .ok taken
  | some ⟨_, none⟩ => .error .invalidValue
  | some ⟨option, some value⟩ =>
    if !option.repeatable && (taken.value? option.name).isSome then .error .argumentConflict
    else
      match option.kind.fault? value with
      | some usage => .error usage
      | none =>
        .ok { taken with values := taken.values ++ [(option.name, value)], pending := none }

/-- Asks for a more verbose log. -/
def addVerbose (taken : Taken) : Except Usage Taken := do
  let taken ← taken.settle
  return { taken with verbosity := min maxVerbosity (taken.verbosity + 1) }

/-- Asks for a log in JSON, once. -/
def addLogJson (taken : Taken) : Except Usage Taken := do
  let taken ← taken.settle
  if taken.logJson then throw .argumentConflict
  return { taken with logJson := true }

/-- Asks for help or the version. -/
def stop {α : Type} (taken : Taken) (usage : Usage) : Except Usage α :=
  match taken.settle with
  | .error e => .error e
  | .ok _ => .error usage

/-- Takes up a flag with a long name. -/
def addFlag (taken : Taken) (hasVersion : Bool) (name : String) : Except Usage Taken :=
  if name = "verbose" then taken.addVerbose
  else if name = "log-json" then taken.addLogJson
  else if name = "help" then taken.stop .help
  else if name = "version" && hasVersion then taken.stop .version
  else .error .unknownArgument

/-- The flag has a long name that is known. -/
def isFlag (hasVersion : Bool) (name : String) : Bool :=
  name = "verbose" || name = "log-json" || name = "help" || (name = "version" && hasVersion)

/-- Takes up flags of one letter. -/
def addLetters (taken : Taken) (hasVersion : Bool) : List Char → Except Usage Taken
  | [] => .ok taken
  | c :: rest =>
    if c = 'v' then
      match taken.addVerbose with
      | .error e => .error e
      | .ok taken => addLetters taken hasVersion rest
    else if c = 'h' then taken.stop .help
    else if c = 'V' && hasVersion then taken.stop .version
    else .error .unknownArgument

/-- Takes up an argument with two dashes that is no option. -/
def addLong (taken : Taken) (hasVersion : Bool) (name : String) (value : Option String) :
    Except Usage Taken :=
  if !isFlag hasVersion name then .error .unknownArgument
  else if value.isSome then .error .tooManyValues
  else taken.addFlag hasVersion name

end Taken

/-! ## Behind the name of a command -/

/-- Takes up one argument of a command. -/
def takeArgument (options : List OptionSpec) (taken : Taken) : Shape → Except Usage Taken
  | .escape => .ok taken
  | .long name value =>
    match options.find? (·.name = name) with
    | none => taken.addLong false name value
    | some option =>
      match taken.settle with
      | .error e => .error e
      | .ok taken =>
        let taken := { taken with pending := some ⟨option, value⟩ }
        if value.isSome then taken.settle else .ok taken
  | .short letters => taken.addLetters false letters
  | .plain text =>
    match taken.pending with
    | some ⟨option, none⟩ => .ok { taken with pending := some ⟨option, some text⟩ }
    | _ => .error .unknownArgument

/-- Takes up the arguments of a command. None may follow an argument of two dashes alone. -/
def takeArguments (options : List OptionSpec) : Taken → List String → Except Usage Taken
  | taken, [] => taken.settle
  | taken, text :: rest =>
    match Shape.ofText text with
    | .escape => if rest.isEmpty then taken.settle else .error .unknownArgument
    | shape =>
      match takeArgument options taken shape with
      | .error e => .error e
      | .ok taken => takeArguments options taken rest

/-- The path of the rules when none is given. -/
def defaultRules : String := Server.Config.default.rulesPath

/-- The method when none is given. -/
def defaultMethod : String := "GET"

/-- The task of a command and what was taken up behind its name. -/
def Verb.task (taken : Taken) : Verb → Except Usage Task
  | .serve =>
    .ok (.serve (taken.value? "config")
      ⟨taken.value? "rules", taken.value? "host", (taken.value? "port").bind portValue?⟩)
  | .check =>
    match taken.value? "path" with
    | none => .error .missingRequired
    | some path =>
      .ok (.check ((taken.value? "rules").getD defaultRules)
        ((taken.value? "method").getD defaultMethod) path (taken.valuesOf "query")
        (taken.value? "body"))
  | .routes => .ok (.routes ((taken.value? "rules").getD defaultRules))

/-- Reads what stands behind the name of a command. What was wished for the log before the name
holds unless it is wished for again. -/
def readCommand (before : Taken) (verb : Verb) (rest : List String) :
    Except Usage Invocation := do
  let taken ← takeArguments verb.options .nothing rest
  let task ← verb.task taken
  return {
    verbosity := if taken.verbosity = 0 then before.verbosity else taken.verbosity
    logJson := before.logJson || taken.logJson
    task }

/-! ## Whole command lines -/

/-- The names of the commands, and the one that asks for help. -/
def isCommandName (name : String) : Bool :=
  name = helpName || (Verb.ofName? name).isSome

/-- What is said when help is asked for about the given names. -/
def helpAbout : List String → Usage
  | [] => .help
  | [name] => if isCommandName name then .help else .invalidSubcommand
  | _ => .invalidSubcommand

/-- Reads a command line of which `before` was taken up; `bare` says that nothing has come. -/
def readFrom : (before : Taken) → (bare : Bool) → List String → Except Usage Invocation
  | _, bare, [] => .error (if bare then .helpOnMissing else .missingSubcommand)
  | before, bare, text :: rest =>
    match Shape.ofText text with
    | .escape =>
      match rest with
      | [] => .error (if bare then .helpOnMissing else .missingSubcommand)
      | name :: _ => .error (if isCommandName name then .unknownArgument else .invalidSubcommand)
    | .long name value =>
      match before.addLong true name value with
      | .error e => .error e
      | .ok before => readFrom before false rest
    | .short letters =>
      match before.addLetters true letters with
      | .error e => .error e
      | .ok before => readFrom before false rest
    | .plain name =>
      if name = helpName then .error (helpAbout rest)
      else
        match Verb.ofName? name with
        | none => .error .invalidSubcommand
        | some verb => readCommand before verb rest

/-- Reads a command line, the name of the program aside. -/
def Invocation.parse (arguments : List String) : Except Usage Invocation :=
  readFrom .nothing true arguments

end Gatehouse.Command
