import Gatehouse.Json.Layout
import Gatehouse.Json.Numeral
import Gatehouse.Json.StringLiteral
/-!
Going past a value that nobody asked for.

The value is checked for its grammar only. Brackets may nest to any depth: the open ones are
kept on a stack. A comma is not looked past, so a closing bracket right behind it is a missing
value or key.
-/

namespace Gatehouse.Json

/-- An open bracket. -/
inductive Frame where
  | list
  | object

/-- The byte that closes a bracket. -/
def Frame.closing : Frame → UInt8
  | .list => ']'.toUInt8
  | .object => '\x7d'.toUInt8

/-- The fault of a text that ends inside the bracket. -/
def Frame.atEnd : Frame → Fault
  | .list => .endInList
  | .object => .endInObject

/-- The fault of something other than a comma or the closing bracket. -/
def Frame.expectedEnd : Frame → Fault
  | .list => .expectedListEnd
  | .object => .expectedObjectEnd

/-- Where the walk stands. -/
inductive Stage where
  /-- Before a value. -/
  | value
  /-- Inside the innermost bracket, behind a value or, if `opened`, behind the bracket. -/
  | inside (opened : Bool)

/-- Goes to before the value of the next entry of a bracket. -/
def skipKey (frame : Frame) (bytes : List UInt8) : Except Failure (List UInt8) :=
  match frame with
  | .list => .ok bytes
  | .object =>
    match skipBlanks bytes with
    | [] => .error ⟨.endInObject, 0⟩
    | b :: rest =>
      if b = '"'.toUInt8 then
        match skipString rest with
        | .error e => .error e
        | .ok rest => skipColon rest
      else .error (.before .keyNotString rest)

/-- Goes to behind a value that is no list and no object, from its first byte. -/
def skipScalar (b : UInt8) (rest : List UInt8) : Except Failure (List UInt8) :=
  if b = 'n'.toUInt8 then readWord ['u', 'l', 'l'] rest
  else if b = 't'.toUInt8 then readWord ['r', 'u', 'e'] rest
  else if b = 'f'.toUInt8 then readWord ['a', 'l', 's', 'e'] rest
  else if b = '-'.toUInt8 then skipNumber rest
  else if isDigit b then skipNumber (b :: rest)
  else if b = '"'.toUInt8 then skipString rest
  else .error (.before .expectedValue rest)

/-- The bracket that a byte opens. -/
def Frame.ofOpening? (b : UInt8) : Option Frame :=
  if b = '['.toUInt8 then some .list
  else if b = '\x7b'.toUInt8 then some .object
  else none

/-- Walks to behind the value that is being skipped. -/
def skipFrom : (turns : Nat) → Stage → List Frame → List UInt8 → Except Failure (List UInt8)
  | 0, _, _, bytes => .error (.before .endInValue bytes)
  | turns + 1, .value, open_, bytes =>
    match skipBlanks bytes with
    | [] => .error ⟨.endInValue, 0⟩
    | b :: rest =>
      match Frame.ofOpening? b with
      | some frame => skipFrom turns (.inside true) (frame :: open_) rest
      | none =>
        match skipScalar b rest with
        | .error e => .error e
        | .ok rest => skipFrom turns (.inside false) open_ rest
  | _ + 1, .inside _, [], bytes => .ok bytes
  | turns + 1, .inside opened, frame :: open_, bytes =>
    match skipBlanks bytes with
    | [] => .error ⟨frame.atEnd, 0⟩
    | b :: rest =>
      if b = frame.closing then skipFrom turns (.inside false) open_ rest
      else if opened ∨ b = ','.toUInt8 then
        match skipKey frame (if opened then b :: rest else rest) with
        | .error e => .error e
        | .ok rest => skipFrom turns .value (frame :: open_) rest
      else .error (.before frame.expectedEnd rest)

/-- Goes to behind a value. -/
def skipValue (bytes : List UInt8) : Except Failure (List UInt8) :=
  skipFrom (2 * bytes.length + 2) .value [] bytes

end Gatehouse.Json
