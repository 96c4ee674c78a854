import Gatehouse.Pattern.Mode
import Gatehouse.Text.Hex
/-!
What a backslash in a pattern stands for.

It stands for a character, a set of characters or a place. No tables of digits, letters or words
beyond ASCII are at hand, so sets and the edges of words can be asked for bytewise only.
-/

namespace Gatehouse.Pattern

/-- What a backslash stands for, with what is behind it. -/
inductive Escape where
  | letter (c : Char) (isByte : Bool)
  | set
  | place
  deriving Repr, DecidableEq

namespace Escape

/-- The value of a hexadecimal digit. -/
def hexDigit? (c : Char) : Option Nat :=
  if c.toNat < 0x80 then Hex.value? (UInt8.ofNat c.toNat) else none

/-- Reads a number of `count` hexadecimal digits, of which `value` has been read. -/
def readHex? (mode : Mode) : (count value : Nat) → List Char → Option (Nat × List Char)
  | 0, value, cs => some (value, cs)
  | count + 1, value, cs =>
    match mode.skip cs with
    | [] => none
    | c :: rest =>
      match hexDigit? c with
      | none => none
      | some digit => readHex? mode count (16 * value + digit) rest

/-- The number is that of a character. -/
def isScalar (n : Nat) : Bool :=
  n < 0xD800 || (0xDFFF < n && n < 0x110000)

/-- Reads a character that is given by its number. -/
def readNumbered? (mode : Mode) (count : Nat) (isByte : Bool) (cs : List Char) :
    Option (Escape × List Char) :=
  match readHex? mode count 0 cs with
  | none => none
  | some (n, rest) => if isScalar n then some (.letter (Char.ofNat n) isByte, rest) else none

/-- Characters that have a letter of their own. -/
def lettered : List (Char × Char) :=
  [('a', '\x07'), ('f', '\x0c'), ('t', '\t'), ('n', '\n'), ('r', '\r'), ('v', '\x0b')]

/-- A character that a backslash leaves as it is: any in ASCII but letters and digits. -/
def isPunctuation (c : Char) : Bool :=
  c.toNat < 0x80 && !c.isAlphanum

/-- Reads what is behind a backslash. -/
def read? (mode : Mode) : List Char → Option (Escape × List Char)
  | [] => none
  | c :: rest =>
    if c = 'x' then readNumbered? mode 2 true rest
    else if c = 'u' then readNumbered? mode 4 false rest
    else if c = 'U' then readNumbered? mode 8 false rest
    else if ['d', 's', 'w'].contains c then if mode.bytewise then some (.set, rest) else none
    else if ['b', 'B', '<', '>'].contains c then
      if mode.bytewise then some (.place, rest) else none
    else if ['A', 'z'].contains c then some (.place, rest)
    else if isPunctuation c then some (.letter c false, rest)
    else (lettered.lookup c).map fun c => (.letter c false, rest)

end Escape

end Gatehouse.Pattern
