import Gatehouse.Text.Ascii
/-!
Socket addresses: an IP address and a port.

An address of version 4 is four numbers below 256 with points between them; a number has at most
three digits and no zero in front. An address of version 6 stands in brackets; it is eight groups
of up to four hexadecimal digits with colons between them, of which the last two may be written
as an address of version 4, and `::` stands for at least one group of zeros. A percent sign and a
number may follow it.
-/

namespace Gatehouse.Server.Address

/-- Passes over something at the front of a text. -/
abbrev Skip := List Char → Option (List Char)

/-! ## Numbers -/

/-- A hexadecimal digit. -/
def isHexDigit (c : Char) : Bool :=
  c.isDigit || ('a' ≤ c && c ≤ 'f') || ('A' ≤ c && c ≤ 'F')

/-- Passes over one given character. -/
def skipChar (c : Char) : Skip
  | [] => none
  | d :: rest => if d = c then some rest else none

/-- Passes over a decimal number of at most `limit`, with any zeros in front. -/
def skipNumber (limit : Nat) : Skip := fun cs =>
  let ds := cs.takeWhile Char.isDigit
  if !ds.isEmpty && Ascii.natOfDigits ds ≤ limit then some (cs.dropWhile Char.isDigit) else none

/-- Passes over one number of an address of version 4. -/
def skipOctet : Skip := fun cs =>
  let ds := cs.takeWhile Char.isDigit
  if !ds.isEmpty && ds.length ≤ 3 && Ascii.natOfDigits ds ≤ 255 &&
      (ds.length = 1 || ds.head? != some '0') then
    some (cs.dropWhile Char.isDigit)
  else none

/-- Passes over one group of an address of version 6. -/
def skipGroup : Skip := fun cs =>
  let ds := cs.takeWhile isHexDigit
  if !ds.isEmpty && ds.length ≤ 4 then some (cs.dropWhile isHexDigit) else none

/-! ## Addresses -/

/-- Passes over a separator, unless this is the first part, and over a part. -/
def skipPart (separator : Char) (first : Bool) (part : Skip) : Skip := fun cs =>
  if first then part cs else (skipChar separator cs).bind part

/-- Passes over an address of version 4. -/
def skipVersion4 : Skip := fun cs => do
  let cs ← skipOctet cs
  let cs ← skipPart '.' false skipOctet cs
  let cs ← skipPart '.' false skipOctet cs
  skipPart '.' false skipOctet cs

/-- What was passed over of the groups of an address of version 6. -/
structure Groups where
  count : Nat
  endsInVersion4 : Bool
  rest : List Char

/-- Passes over at most `limit` groups. -/
def skipGroups : (limit : Nat) → (first : Bool) → List Char → Groups
  | 0, _, cs => ⟨0, false, cs⟩
  | limit + 1, first, cs =>
    match if limit = 0 then none else skipPart ':' first skipVersion4 cs with
    | some rest => ⟨2, true, rest⟩
    | none =>
      match skipPart ':' first skipGroup cs with
      | none => ⟨0, false, cs⟩
      | some rest =>
        let groups := skipGroups limit false rest
        { groups with count := groups.count + 1 }

/-- Passes over an address of version 6. -/
def skipVersion6 : Skip := fun cs =>
  let head := skipGroups 8 true cs
  if head.count = 8 then some head.rest
  else if head.endsInVersion4 then none
  else do
    let cs ← skipChar ':' head.rest
    let cs ← skipChar ':' cs
    return (skipGroups (7 - head.count) true cs).rest

/-- Passes over a percent sign and a number, if they are there. -/
def skipScope : Skip := fun cs =>
  match (skipChar '%' cs).bind (skipNumber (Nat.pow 2 32 - 1)) with
  | some rest => some rest
  | none => some cs

/-- Passes over a colon and a port. -/
def skipPort : Skip := fun cs =>
  (skipChar ':' cs).bind (skipNumber 65535)

/-- Passes over an address of version 6 in brackets. -/
def skipBracketed : Skip := fun cs => do
  let cs ← skipChar '[' cs
  let cs ← skipVersion6 cs
  let cs ← skipScope cs
  skipChar ']' cs

/-- The text is a socket address. -/
def isSocketAddress (text : String) : Bool :=
  (skipVersion4 text.toList).bind skipPort == some [] ||
    (skipBracketed text.toList).bind skipPort == some []

end Gatehouse.Server.Address
