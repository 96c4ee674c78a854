/-!
Hexadecimal digits, read in either case and written in lower case.

Main statement: a digit that was written reads back (`value?_digit`).
-/

namespace Gatehouse.Hex

/-- The value of a hexadecimal digit, given as an ASCII byte. -/
def value? (b : UInt8) : Option Nat :=
  let n := b.toNat
  if 0x30 ≤ n && n ≤ 0x39 then some (n - 0x30)
  else if 0x41 ≤ n && n ≤ 0x46 then some (n - 0x41 + 10)
  else if 0x61 ≤ n && n ≤ 0x66 then some (n - 0x61 + 10)
  else none

/-- The digit for a number below 16. -/
def digit (n : Nat) : Char :=
  if n < 10 then Char.ofNat (0x30 + n) else Char.ofNat (0x61 + (n - 10))

/-- The last `width` digits of a number, zeros in front. -/
def padded : (width : Nat) → Nat → List Char
  | 0, _ => []
  | width + 1, n => padded width (n / 16) ++ [digit (n % 16)]

/-- The number without leading zeros. -/
def shortest (n : Nat) : List Char :=
  if n < 16 then [digit n] else shortest (n / 16) ++ [digit (n % 16)]
termination_by n

theorem value?_digit : ∀ n, n < 16 → value? (UInt8.ofNat (digit n).toNat) = some n := by
  decide

end Gatehouse.Hex
