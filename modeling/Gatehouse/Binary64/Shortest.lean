import Gatehouse.Binary64
/-!
The shortest decimal of a binary64 number.

Of all decimals that round to the number, the one with the fewest digits is taken, and of those
the nearest. It lies on the decimal grid with that many digits, where only the two neighbours of
the number can be nearest, so those two are tried for one digit, two digits, and so on; 17
digits always suffice.
-/

namespace Gatehouse.Binary64

/-! ## The decimal -/

/-- The decimal `coefficient * 10 ^ exponent`. -/
structure Decimal where
  coefficient : Nat
  exponent : Int
  deriving Repr, DecidableEq

/-- A power of ten as a quotient of whole numbers. -/
def powTen (e : Int) : Nat × Nat :=
  if 0 ≤ e then (Nat.pow 10 e.toNat, 1) else (1, Nat.pow 10 (-e).toNat)

/-- The interval of values that round to a magnitude, in quarters of a unit. The ends belong to
it when the significand is even. -/
structure Interval where
  low : Nat
  high : Nat
  closed : Bool

/-- The interval of the magnitude `units`, which must not be 0. Below a power of two the
neighbour is only half as far. -/
def interval (units : Nat) : Interval :=
  let g := grid units
  let below := if units == Nat.pow 2 units.log2 && 1 < g then g / 2 else g
  ⟨4 * units - 2 * below, 4 * units + 2 * g, units / g % 2 == 0⟩

/-- A decimal lies in the interval. -/
def Interval.holds (i : Interval) (d : Decimal) : Bool :=
  let (a, b) := powTen d.exponent
  let v := d.coefficient * a * (4 * one)
  if i.closed then i.low * b ≤ v && v ≤ i.high * b else i.low * b < v && v < i.high * b

/-- The distance of a decimal from the magnitude `units`, in parts that depend on the exponent
of the decimal alone. -/
def distance (units : Nat) (d : Decimal) : Nat :=
  let (a, b) := powTen d.exponent
  let v := d.coefficient * a * one
  let w := units * b
  (v - w) + (w - v)

/-- The place after the point of the first digit of a magnitude below 1, from place `j` on. -/
def placeBelowOne (units : Nat) : (fuel j : Nat) → Nat
  | 0, j => j
  | fuel + 1, j => if one ≤ Nat.pow 10 j * units then j else placeBelowOne units fuel (j + 1)

/-- The exponent of the first digit of a magnitude. -/
def leadingExponent (units : Nat) : Int :=
  if one ≤ units then ((Nat.toDigits 10 (units / one)).length : Int) - 1
  else -(placeBelowOne units 400 1 : Int)

/-- The neighbours of the magnitude with `exponent` as the exponent of the last digit, the
nearer first; of two equally near ones the even one. -/
def neighbours (units : Nat) (exponent : Int) : List Decimal :=
  let (a, b) := powTen exponent
  let q := units * b / (a * one)
  let lo : Decimal := ⟨q, exponent⟩
  let hi : Decimal := ⟨q + 1, exponent⟩
  let dl := distance units lo
  let dh := distance units hi
  if dl < dh || (dl == dh && q % 2 == 0) then [lo, hi] else [hi, lo]

/-- The first hit among decimals of `digits` digits and more, at most `more` more. -/
def search (units : Nat) (top : Int) : (more digits : Nat) → Decimal
  | 0, digits => (neighbours units (top - digits + 1)).headD ⟨0, 0⟩
  | more + 1, digits =>
    match (neighbours units (top - digits + 1)).find? (interval units).holds with
    | some d => d
    | none => search units top more (digits + 1)

/-- The decimal without zeros at its end. -/
def Decimal.strip (d : Decimal) : (fuel : Nat) → Decimal
  | 0 => d
  | fuel + 1 =>
    if d.coefficient != 0 && d.coefficient % 10 == 0 then
      (⟨d.coefficient / 10, d.exponent + 1⟩ : Decimal).strip fuel
    else d

/-- The shortest decimal of a magnitude that is not 0. -/
def shortest (units : Nat) : Decimal :=
  (search units (leadingExponent units) 17 1).strip 20

/-! ## Its text -/

/-- How a decimal is written: between two exponents of the first digit with its point in place,
otherwise with an exponent. -/
structure Style where
  firstPositional : Int
  lastPositional : Int

/-- Numbers in messages are written with the point in place from 10^-5 up to below 10^16. -/
def messageStyle : Style :=
  ⟨-5, 15⟩

/-- The digits with the point behind the first digit, if more digits follow. -/
def pointed : List Char → List Char
  | [] => []
  | [c] => [c]
  | c :: r => c :: '.' :: r

/-- An exponent: always a sign, and no zeros in front. -/
def exponentText (e : Int) : List Char :=
  (if e < 0 then '-' else '+') :: Nat.toDigits 10 e.natAbs

/-- The text of a decimal; a positional one has at least one digit on each side of the point. -/
def Decimal.text (style : Style) (d : Decimal) : List Char :=
  let ds := Nat.toDigits 10 d.coefficient
  let lead : Int := d.exponent + ds.length - 1
  if style.firstPositional ≤ lead && lead ≤ style.lastPositional then
    if lead < 0 then
      '0' :: '.' :: (List.replicate ((-lead).toNat - 1) '0' ++ ds)
    else
      let whole := lead.toNat + 1
      if ds.length ≤ whole then
        ds ++ List.replicate (whole - ds.length) '0' ++ ['.', '0']
      else
        ds.take whole ++ '.' :: ds.drop whole
  else
    pointed ds ++ 'e' :: exponentText lead

/-- The shortest text that reads back as the number. -/
def text (x : Binary64) : String :=
  let magnitude :=
    if x.units == 0 then ['0', '.', '0'] else (shortest x.units).text messageStyle
  String.ofList (if x.negative then '-' :: magnitude else magnitude)

end Gatehouse.Binary64
