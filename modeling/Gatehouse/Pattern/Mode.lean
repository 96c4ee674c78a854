import Gatehouse.Text.Blank
/-!
How the parts of a pattern are read.

Flags in a pattern change how it is read from there on: `i` leaves the case of letters out of
account, `u` turned off goes by bytes in place of characters, and `x` skips blanks and comments.
The other flags have no bearing on what is a pattern. No tables of letter case are at hand, so
there is no pattern that leaves case out of account and goes by characters, unless it has no
letters.
-/

namespace Gatehouse.Pattern

/-- How a part of a pattern is read. -/
structure Mode where
  foldsCase : Bool
  bytewise : Bool
  spaced : Bool
  deriving Repr, DecidableEq

namespace Mode

/-- How a pattern is read at its start. -/
def plain : Mode := ⟨false, false, false⟩

/-- What stands behind blanks and comments, which go from a `#` to the end of the line. -/
def skipSpace : (inComment : Bool) → List Char → List Char
  | _, [] => []
  | true, c :: cs => skipSpace (c != '\n') cs
  | false, c :: cs =>
    if Text.isBlank c then skipSpace false cs
    else if c = '#' then skipSpace true cs
    else c :: cs

/-- What is read next. -/
def skip (mode : Mode) (cs : List Char) : List Char :=
  if mode.spaced then skipSpace false cs else cs

/-! ## Flags -/

/-- The letters of the flags. -/
def flagLetters : List Char := ['i', 'm', 's', 'U', 'u', 'R', 'x']

/-- Flags, each at most once. Those behind a dash are turned off, and something is behind it. -/
def areFlags (flags : List Char) : Bool :=
  flags.all (fun c => c == '-' || flagLetters.contains c) && decide flags.Nodup &&
  flags.getLast? != some '-'

/-- What flags say about one of them. -/
def flag? (flags : List Char) (letter : Char) : Option Bool :=
  if (flags.takeWhile (· != '-')).contains letter then some true
  else if flags.contains letter then some false
  else none

/-- The mode behind flags. -/
def set (mode : Mode) (flags : List Char) : Mode where
  foldsCase := (flag? flags 'i').getD mode.foldsCase
  bytewise := ((flag? flags 'u').map (!·)).getD mode.bytewise
  spaced := (flag? flags 'x').getD mode.spaced

/-! ## Characters -/

/-- A pattern may ask for the character, which may be given as a byte. Bytes that are only a part
of a character are not asked for. -/
def admits (mode : Mode) (c : Char) (isByte : Bool) : Bool :=
  if mode.bytewise then !isByte || c.toNat < 0x80 else !mode.foldsCase

/-- Brackets may hold the character. Bytewise they hold ASCII characters only. -/
def admitsMember (mode : Mode) (c : Char) : Bool :=
  if mode.bytewise then c.toNat < 0x80 else !mode.foldsCase

end Mode

end Gatehouse.Pattern
