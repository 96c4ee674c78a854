import Gatehouse.Command.Arguments
import Gatehouse.Command.Error
import Gatehouse.Http.Gateway
import Gatehouse.Log.Filter
import Gatehouse.Rules.Document
import Gatehouse.Rules.Listing
import Gatehouse.Server.Address
/-!
Carrying out commands.

What a command does is told by the events it logs and how it ends. How a file is read is an
argument, so that a command can be carried out on a tree of files in memory.
-/

namespace Gatehouse.Command

/-! ## Checking from the command line -/

/-- The pair of a query argument, which is cut at its first `=`. -/
def pairOf (text : String) : Except Error (String × String) :=
  match text.toList.dropWhile (· != '=') with
  | [] => .error (.queryArgument text)
  | _ :: value =>
    .ok (String.ofList (text.toList.takeWhile (· != '=')), String.ofList value)

/-- The body that an argument gives. -/
def bodyOf : Option String → Except Error (Option Json)
  | none => .ok none
  | some text =>
    match Json.parse text with
    | .error e => .error (.bodyArgument e)
    | .ok value => .ok (some value)

/-- The request that arguments describe. -/
def descriptorOf (method path : String) (query : List String) (body : Option String) :
    Except Error Check.Descriptor := do
  let pairs ← query.mapM pairOf
  let body ← bodyOf body
  return ⟨method, "", path, Http.Query.ofPairs pairs, body⟩

/-- The outcome of the request that arguments describe, under a table. -/
def check (table : Rules.Table) (method path : String) (query : List String)
    (body : Option String) : Except Error Check.Outcome :=
  (descriptorOf method path query body).map table.check

/-! ## Runs -/

/-- How a command ends. A server is up with its gateway. It is stuck if there is none, as its
origins hold `*`. -/
inductive Ending where
  | printed (text : String)
  | failed (e : Error)
  | serving (config : Server.Config) (gateway : Http.Gateway)
  | stuck (config : Server.Config)

/-- What a command does: the events it logs, and how it ends. -/
structure Run where
  events : List Log.Event
  ending : Ending

/-- A run that fails before anything is logged. -/
def Run.failed (e : Error) : Run := ⟨[], .failed e⟩

/-- The event that a table was loaded from a path. -/
def loaded (path : String) (table : Rules.Table) : Log.Event :=
  .tableLoaded path table.size

/-- Checks a request under the table of a path. -/
def runCheck (path : String) (table : Rules.Table) (request : Except Error Check.Descriptor) :
    Run :=
  match request with
  | .error e => ⟨[loaded path table], .failed e⟩
  | .ok request =>
    ⟨loaded path table :: Log.Event.ofCheck table request,
      match table.check request with
      | .accepted => .printed "accepted\n"
      | .rejected rejection => .failed (.rejected rejection)⟩

/-- Lists the table of a path. -/
def runRoutes (path : String) (table : Rules.Table) : Run :=
  ⟨[loaded path table], .printed (String.join (table.lines.map (· ++ "\n")))⟩

/-- How it ends to start a server. The gateway is made first, whatever the address is. -/
def start (config : Server.Config) (table : Rules.Table) : Ending :=
  match Http.Gateway.ofConfig? config table with
  | none => .stuck config
  | some gateway =>
    if Server.Address.isSocketAddress config.address then .serving config gateway
    else .failed (.address config.address)

/-- Starts a server with the table of a path. -/
def runServer (config : Server.Config) (table : Rules.Table) : Run :=
  ⟨[loaded config.rulesPath table], start config table⟩

/-- Goes on with the table of a path. -/
def withTable {m : Type → Type} [Monad m] (source : Files.Source m) (path : String)
    (next : Rules.Table → Run) : m Run := do
  match ← Rules.Table.load source path with
  | .error e => return .failed (.rules e)
  | .ok table => return next table

/-- Carries out a task. The port may also come from a variable; one that is not Unicode counts as
unset. -/
def Task.run {m : Type → Type} [Monad m] (source : Files.Source m) (port : Option String) :
    Task → m Run
  | .serve path overrides => do
    match ← Server.Config.resolve source path overrides port with
    | .error e => return .failed (.config e)
    | .ok config => withTable source config.rulesPath (runServer config)
  | .check rules method path query body =>
    withTable source rules fun table => runCheck rules table (descriptorOf method path query body)
  | .routes rules => withTable source rules (runRoutes rules)

/-! ## What is shown -/

/-- What a run shows: its exit status, its output, and the lines it tells errors by. -/
structure Report where
  exitStatus : Nat
  output : String
  errors : List String
  deriving Repr, DecidableEq

/-- The line that tells the name and the version of the program. -/
def versionLine : String := "routeguard " ++ Http.version ++ "\n"

/-- The report of a failure. -/
def Error.report (e : Error) : Report :=
  ⟨1, "", [e.line]⟩

/-- The report of a server that is stuck. Its status is not the one of a failure, and no code is
told. -/
def stuckReport : Report :=
  ⟨101, "", ["a list of origins cannot hold `*`"]⟩

/-- The report of an ending; a server that is up has none. -/
def Ending.report? : Ending → Option Report
  | .printed text => some ⟨0, text, []⟩
  | .failed e => some e.report
  | .serving _ _ => none
  | .stuck _ => some stuckReport

/-- The events of a run that are logged. -/
def Run.logged (run : Run) (filter : Log.Filter) : List Log.Event :=
  run.events.filter filter.admits

end Gatehouse.Command
