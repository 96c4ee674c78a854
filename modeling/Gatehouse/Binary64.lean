/-!
Finite binary64 numbers, exactly.

Every finite binary64 magnitude is a whole number of units of 2^-1074, so it is kept as that
natural number, and arithmetic is exact arithmetic followed by one rounding. Rounding keeps 53
significant bits and goes to the nearest, a tie to the even neighbour. Results too large for
the format are reported as `none`.

Main statement: the rounding of a quotient is a multiple of the grid at its magnitude
(`grid_dvd_nearest`).
-/

namespace Gatehouse

/-- A finite binary64 number: its sign, and its magnitude in units of 2^-1074. -/
structure Binary64 where
  negative : Bool
  units : Nat
  deriving Repr, DecidableEq

namespace Binary64

/-- The number of units in 1. -/
def one : Nat := Nat.pow 2 1074

/-- The first magnitude, in units, that is too large: 2^1024. -/
def limit : Nat := Nat.pow 2 2098

/-! ## Rounding -/

/-- The whole number nearest to `num / den`; a tie goes to the even neighbour. -/
def roundHalfEven (num den : Nat) : Nat :=
  let q := num / den
  let r := num % den
  if 2 * r < den then q
  else if den < 2 * r then q + 1
  else q + q % 2

/-- The distance, in units, between neighbouring magnitudes at a magnitude of `q` units. -/
def grid (q : Nat) : Nat :=
  Nat.pow 2 (q.log2 + 1 - 53)

/-- The magnitude nearest to `num / den` units. -/
def nearest (num den : Nat) : Nat :=
  let g := grid (num / den)
  roundHalfEven num (den * g) * g

/-- The magnitude, if the format has it. -/
def bounded? (units : Nat) : Option Nat :=
  if units < limit then some units else none

/-! ## Arithmetic on magnitudes -/

/-- The magnitude nearest to a whole number. -/
def magnitudeOfNat (n : Nat) : Nat :=
  nearest (n * one) 1

/-- The rounded product of two magnitudes. -/
def mul (a b : Nat) : Nat :=
  nearest (a * b) one

/-- The rounded quotient of two magnitudes. -/
def div (a b : Nat) : Nat :=
  nearest (a * one) b

/-! ## Views -/

/-- A whole number, of either sign. -/
def isWhole (x : Binary64) : Bool :=
  x.units % one == 0

/-- The 64 bits of the number in the interchange format. -/
def toBits (x : Binary64) : Nat :=
  let field :=
    if x.units < Nat.pow 2 52 then x.units
    else
      let e := x.units.log2 - 52
      (e + 1) * Nat.pow 2 52 + (x.units / Nat.pow 2 e - Nat.pow 2 52)
  (if x.negative then Nat.pow 2 63 else 0) + field

/-! ## Lemmas -/

theorem grid_dvd_nearest (num den : Nat) : grid (num / den) ∣ nearest num den :=
  Nat.dvd_mul_left _ _

end Binary64

end Gatehouse
