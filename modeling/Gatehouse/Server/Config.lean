import Gatehouse.Files
import Gatehouse.Json.Record
/-!
The configuration of a server.

A configuration is the defaults, a file over them, settings given by hand over these, and a port
given as text over all.
-/

namespace Gatehouse.Server

/-- The configuration of a server. -/
structure Config where
  host : String
  port : Nat
  rulesPath : String
  bodyLimit : Nat
  origins : List String
  deriving Repr, DecidableEq

/-- The largest port. -/
def maxPort : Nat := 65535

/-- The largest number of bytes that a limit can name. -/
def maxSize : Nat := Nat.pow 2 64 - 1

namespace Config

/-- The configuration when nothing is set. -/
def default : Config :=
  ⟨"0.0.0.0", 3000, "./rules.json", 1048576, []⟩

/-! ## Errors -/

/-- Why there is no configuration. -/
inductive Error where
  | unreadable (path : String) (e : Files.ReadError)
  | malformed (path : String) (e : Json.Error)
  | zeroBodyLimit
  | invalidPort (text : String)

/-- The words for an error. -/
def Error.message : Error → String
  | .unreadable path e => "failed to read config '" ++ path ++ "': " ++ e.message
  | .malformed path e => "invalid config JSON in '" ++ path ++ "': " ++ e.message
  | .zeroBodyLimit => "invalid body_limit_bytes: must be > 0"
  | .invalidPort text => "invalid PORT: '" ++ text ++ "' is not a port number"

/-! ## Files -/

/-- The fields of a written configuration. -/
def fields : List (Json.FieldReader Config) :=
  [⟨"host", fun c => Json.mapRead (fun host => { c with host }) (Json.readText "a string")⟩,
    ⟨"port", fun c => Json.mapRead (fun port => { c with port }) (Json.readUnsigned "u16" maxPort)⟩,
    ⟨"rules_path", fun c =>
      Json.mapRead (fun rulesPath => { c with rulesPath }) (Json.readText "path string")⟩,
    ⟨"body_limit_bytes", fun c =>
      Json.mapRead (fun bodyLimit => { c with bodyLimit }) (Json.readUnsigned "usize" maxSize)⟩,
    ⟨"cors_origins", fun c =>
      Json.mapRead (fun origins => { c with origins }) Json.readTexts⟩]

/-- Reads a configuration. -/
def read : Json.Reader Config :=
  Json.readRecord "struct ServerConfig" fields default

/-- The configuration that the text of the file at a path describes. A limit of zero is none. -/
def parse (path text : String) : Except Error Config :=
  match Json.readAll read (Utf8.encode text) with
  | .error e => .error (.malformed path e)
  | .ok config => if config.bodyLimit = 0 then .error .zeroBodyLimit else .ok config

/-- The configuration that the file at a path describes. -/
def load {m : Type → Type} [Monad m] (source : Files.Source m) (path : String) :
    m (Except Error Config) := do
  match ← source.readText path with
  | .error e => return .error (.unreadable path e)
  | .ok text => return parse path text

/-! ## Settings -/

/-- The port that a text names, blanks around it aside. -/
def portOf? (text : String) : Option Nat :=
  Ascii.unsigned? maxPort (Text.trim text.toList)

/-- Takes the port from a text, if there is one. -/
def withPort (config : Config) (text : Option String) : Except Error Config :=
  match text with
  | none => .ok config
  | some text =>
    match portOf? text with
    | none => .error (.invalidPort text)
    | some port => .ok { config with port }

/-- Settings that are given by hand. -/
structure Overrides where
  rulesPath : Option String
  host : Option String
  port : Option Nat
  deriving Repr, DecidableEq

/-- The configuration with settings given by hand. -/
def override (config : Config) (overrides : Overrides) : Config :=
  { config with
    rulesPath := overrides.rulesPath.getD config.rulesPath
    host := overrides.host.getD config.host
    port := overrides.port.getD config.port }

/-- The configuration of a file, settings given by hand, and the text of the variable for the port.
A variable that is not Unicode has no text, so it counts as unset. -/
def resolve {m : Type → Type} [Monad m] (source : Files.Source m) (path : Option String)
    (overrides : Overrides) (port : Option String) : m (Except Error Config) := do
  match path with
  | none => return (default.override overrides).withPort port
  | some path =>
    match ← load source path with
    | .error e => return .error e
    | .ok config => return (config.override overrides).withPort port

/-- The address to listen on. -/
def address (config : Config) : String :=
  config.host ++ ":" ++ toString config.port

end Config

end Gatehouse.Server
