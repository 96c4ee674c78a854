import Gatehouse.Command.Run
/-!
The program: arguments, variables and files in; output, errors and an exit status out.

All that the program decides is decided by `Command.Invocation.parse` and `Command.Task.run`. Nothing
here listens on a network: a server that could start is told as one that cannot listen.
-/

namespace Gatehouse

/-- The number of a failure of the system, which some calls give with a minus sign. -/
def systemNumber (code : UInt32) : Nat :=
  if code.toNat < Nat.pow 2 31 then code.toNat else Nat.pow 2 32 - code.toNat

/-- Why the system did not read a file. -/
def readErrorOf : IO.Error → Files.ReadError
  | .noFileOrDirectory _ _ _ => .notFound
  | .inappropriateType _ code _ => if systemNumber code = 20 then .notDirectory else .isDirectory
  | .invalidArgument _ code text => if systemNumber code = 36 then .nameTooLong else .system text
  | .permissionDenied _ code _ =>
    .system ("Permission denied (os error " ++ toString (systemNumber code) ++ ")")
  | e => .system (toString e)

/-- Reads a file of the system. -/
def systemSource : Files.Source IO := fun path => do
  if path.toList.contains '\x00' then return .error .nulInPath
  try
    return .ok (← IO.FS.readBinFile path).toList
  catch e =>
    return .error (readErrorOf e)

/-- The text of a variable. What is not Unicode comes from the system with U+FFFD in it, and counts
as unset. -/
def textVariable? (name : String) : IO (Option String) := do
  return (← IO.getEnv name).filter fun text => !text.toList.contains '\uFFFD'

/-- Shows the log of a run. -/
def showLog (json : Bool) (events : List Log.Event) : IO Unit :=
  events.forM fun event => IO.eprintln (if json then event.toJson.text else event.line)

/-- Shows a report, and gives the exit status. -/
def showReport (report : Command.Report) : IO UInt32 := do
  try
    IO.print report.output
  catch e =>
    IO.eprintln (Command.Error.io (toString e)).line
    return 1
  report.errors.forM IO.eprintln
  return report.exitStatus.toUInt32

/-- The report of a server that could start. -/
def notListening : Command.Report :=
  Command.Error.report (.listening "there is no network to listen on")

/-- Shows why a command line names nothing to do, and gives the exit status. -/
def showUsage (usage : Command.Usage) : IO UInt32 := do
  match usage with
  | .version => IO.print Command.versionLine
  | .help => IO.print Command.Usage.synopsis
  | .helpOnMissing => IO.eprint Command.Usage.synopsis
  | usage => IO.eprint ("error: " ++ usage.explanation ++ "\n\n" ++ Command.Usage.synopsis)
  return usage.exitStatus.toUInt32

end Gatehouse

open Gatehouse in
/-- The program. -/
def main (arguments : List String) : IO UInt32 := do
  match Command.Invocation.parse arguments with
  | .error usage => showUsage usage
  | .ok invocation =>
    match Log.Filter.resolve? (← textVariable? "RUST_LOG") invocation.verbosity with
    | none =>
      IO.eprintln "a directive of RUST_LOG is cut inside a character"
      return 101
    | some filter =>
      let run ← invocation.task.run systemSource (← textVariable? "PORT")
      showLog invocation.logJson (run.logged filter)
      showReport (run.ending.report?.getD notListening)
