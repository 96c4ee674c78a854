import Gatehouse.Text.Ascii
/-!
How important a log event is, and how much is logged.
-/

namespace Gatehouse.Log

/-- The importance of an event, most important first. -/
inductive Level where
  | error
  | warn
  | info
  | debug
  | trace
  deriving Repr, DecidableEq

/-- The place of a level, the most important being 1. -/
def Level.rank : Level → Nat
  | .error => 1
  | .warn => 2
  | .info => 3
  | .debug => 4
  | .trace => 5

/-- The name of a level. -/
def Level.name : Level → String
  | .error => "error"
  | .warn => "warn"
  | .info => "info"
  | .debug => "debug"
  | .trace => "trace"

/-- All levels. -/
def Level.all : List Level := [.error, .warn, .info, .debug, .trace]

/-- How much is logged: events up to a level, or none. -/
abbrev Threshold := Option Level

/-- An event of the level is logged. -/
def Threshold.admits (threshold : Threshold) (level : Level) : Bool :=
  match threshold with
  | none => false
  | some limit => level.rank ≤ limit.rank

/-- The level for a number of requests for more. -/
def levelFor (verbosity : Nat) : Level :=
  match verbosity with
  | 0 => .info
  | 1 => .debug
  | _ => .trace

/-- The threshold that a text names: a level by its name in any letter case or by its rank, `off`
or the rank 0 for none. -/
def Threshold.ofText? (text : String) : Option Threshold :=
  match Ascii.unsigned? 5 text.toList with
  | some 0 => some none
  | some rank => (Level.all.find? (·.rank = rank)).map some
  | none =>
    if Ascii.lower text = "off" then some none
    else (Level.all.find? (·.name = Ascii.lower text)).map some

end Gatehouse.Log
