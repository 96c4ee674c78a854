/-!
Texts read with ASCII rules: letter case and unsigned decimal numbers.

Only the 26 letters `A` to `Z` have a case here and only `0` to `9` are digits; every other
character stands for itself. Main statement: lowering twice is lowering once (`lower_lower`).
-/

namespace Gatehouse.Ascii

/-- The text with `A` to `Z` replaced by `a` to `z`. -/
def lower (s : String) : String :=
  String.ofList (s.toList.map Char.toLower)

/-- The text with `a` to `z` replaced by `A` to `Z`. -/
def upper (s : String) : String :=
  String.ofList (s.toList.map Char.toUpper)

/-- The number that a list of decimal digits denotes. -/
def natOfDigits (ds : List Char) : Nat :=
  ds.foldl (fun n d => 10 * n + (d.toNat - 48)) 0

/-- At least one character, and digits only. -/
def isDigits (cs : List Char) : Bool :=
  !cs.isEmpty && cs.all Char.isDigit

/-- An unsigned number of at most `limit`: an optional plus sign, then digits, leading zeros
allowed. -/
def unsigned? (limit : Nat) (cs : List Char) : Option Nat :=
  let ds := match cs with
    | '+' :: r => r
    | _ => cs
  if isDigits ds && natOfDigits ds ≤ limit then some (natOfDigits ds) else none

/-! ## Case -/

theorem toLower_eq_self {c : Char} (h : 128 ≤ c.toNat) : c.toLower = c := by
  have hn : ¬(c.val ≥ 'A'.val ∧ c.val ≤ 'Z'.val) := by
    rintro ⟨-, hz⟩
    have : c.toNat ≤ 90 := UInt32.le_iff_toNat_le.mp hz
    omega
  unfold Char.toLower
  rw [dif_neg hn]

theorem toLower_toLower (c : Char) : c.toLower.toLower = c.toLower := by
  by_cases h : c.toNat < 128
  · have all : ∀ n, n < 128 → (Char.ofNat n).toLower.toLower = (Char.ofNat n).toLower := by
      decide
    have := all c.toNat h
    rwa [Char.ofNat_toNat] at this
  · have hc := toLower_eq_self (c := c) (by omega)
    rw [hc, hc]

theorem lower_lower (s : String) : lower (lower s) = lower s := by
  simp only [lower, String.toList_ofList, List.map_map]
  congr 1
  exact List.map_congr_left fun c _ => toLower_toLower c

end Gatehouse.Ascii
