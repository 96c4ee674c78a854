import Gatehouse.Binary64
import Mathlib.Tactic.Ring
/-!
Whole numbers in binary64.

A whole number of any size is rounded to a whole number, and so is a product of two. The reason is
the grid at its magnitude: up to 2^53 the number is on it, and above that the grid is itself one of
whole numbers.

    one ∣ nearest (n * one * den) den                                  (one_dvd_nearest)

Rounding at most doubles a number (`nearest_le`). That is coarse, and it is enough to see that what
is far below the largest magnitude stays in range (`mul_magnitudes_lt`).
-/

namespace Gatehouse.Binary64

theorem isWhole_iff {x : Binary64} : x.isWhole = true ↔ one ∣ x.units := by
  unfold isWhole
  rw [beq_iff_eq, Nat.dvd_iff_mod_eq_zero]

theorem one_pos : 0 < one := by
  decide +kernel

theorem exists_one_eq : ∃ e, one = Nat.pow 2 e := by
  unfold one
  exact ⟨_, rfl⟩

theorem grid_pos (q : Nat) : 0 < grid q :=
  Nat.two_pow_pos _

/-- The grid divides the whole numbers, or it is of whole numbers. -/
theorem grid_dvd_one_or (q : Nat) : grid q ∣ one ∨ one ∣ grid q := by
  obtain ⟨e, he⟩ := exists_one_eq
  rw [he]
  exact (Nat.le_total _ e).imp (Nat.pow_dvd_pow 2) (Nat.pow_dvd_pow 2)

theorem roundHalfEven_mul (m : Nat) {den : Nat} (h : 0 < den) : roundHalfEven (m * den) den = m := by
  unfold roundHalfEven
  simp [Nat.mul_div_cancel _ h, h]

/-- A whole number is rounded to a whole number. -/
theorem one_dvd_nearest (n : Nat) {den : Nat} (h : 0 < den) : one ∣ nearest (n * one * den) den := by
  have hquotient : n * one * den / den = n * one := Nat.mul_div_cancel _ h
  have hpos := grid_pos (n * one)
  have hgrid := grid_dvd_nearest (n * one * den) den
  rw [hquotient] at hgrid
  rcases grid_dvd_one_or (n * one) with ⟨k, hk⟩ | hcoarse
  · -- the number is on the grid
    unfold nearest
    simp only [hquotient]
    generalize grid (n * one) = g at hk hpos ⊢
    have hnum : n * one * den = n * k * (den * g) := by
      rw [hk]
      ring
    have hback : n * k * g = n * one := by
      rw [hk]
      ring
    rw [hnum, roundHalfEven_mul _ (Nat.mul_pos h hpos), hback]
    exact Nat.dvd_mul_left one n
  · exact hcoarse.trans hgrid

theorem one_dvd_magnitudeOfNat (n : Nat) : one ∣ magnitudeOfNat n := by
  have h := one_dvd_nearest n Nat.one_pos
  rw [Nat.mul_one] at h
  exact h

theorem one_dvd_mul {a b : Nat} (ha : one ∣ a) (hb : one ∣ b) : one ∣ mul a b := by
  obtain ⟨x, hx⟩ := ha
  obtain ⟨y, hy⟩ := hb
  have hproduct : a * b = x * y * one * one := by
    rw [hx, hy]
    ring
  unfold mul
  rw [hproduct]
  exact one_dvd_nearest (x * y) one_pos

/-- Rounding goes up to the next point of the grid at most, and so doubles at most. -/
theorem nearest_le (num den : Nat) : nearest num den ≤ max 1 (2 * (num / den)) := by
  unfold nearest
  dsimp only
  have hround : roundHalfEven num (den * grid (num / den)) ≤ num / den / grid (num / den) + 1 := by
    rw [Nat.div_div_eq_div_mul]
    unfold roundHalfEven
    dsimp only
    split
    · omega
    split
    · omega
    · omega
  have hgrid : grid (num / den) ≤ max 1 (num / den) := by
    by_cases hzero : num / den = 0
    · rw [hzero]
      decide
    · calc grid (num / den) ≤ 2 ^ (num / den).log2 := Nat.pow_le_pow_right (by decide) (by omega)
        _ ≤ num / den := Nat.log2_self_le hzero
        _ ≤ max 1 (num / den) := Nat.le_max_right _ _
  calc roundHalfEven num (den * grid (num / den)) * grid (num / den)
      ≤ (num / den / grid (num / den) + 1) * grid (num / den) := Nat.mul_le_mul_right _ hround
    _ = num / den / grid (num / den) * grid (num / den) + grid (num / den) := by ring
    _ ≤ num / den + max 1 (num / den) := Nat.add_le_add (Nat.div_mul_le_self _ _) hgrid
    _ ≤ max 1 (2 * (num / den)) := by omega

theorem magnitudeOfNat_le {n : Nat} (h : n ≠ 0) : magnitudeOfNat n ≤ 2 * n * one := by
  have hle := nearest_le (n * one) 1
  rw [Nat.div_one] at hle
  have hpos : 0 < n * one := Nat.mul_pos (Nat.pos_of_ne_zero h) one_pos
  calc magnitudeOfNat n ≤ max 1 (2 * (n * one)) := hle
    _ = 2 * (n * one) := Nat.max_eq_right (by omega)
    _ = 2 * n * one := by ring

/-- A product of up to 307 digits is in range, although three roundings come before it. -/
theorem mul_magnitudes_lt {m k digits : Nat} (hm : m ≠ 0) (hdigits : digits ≤ 307)
    (h : m * 10 ^ k ≤ 10 ^ digits) :
    mul (magnitudeOfNat m) (magnitudeOfNat (Nat.pow 10 k)) < limit := by
  have hbound : ∀ n, n ≤ 307 → max 1 (2 * (4 * 10 ^ n * one)) < limit := by
    decide +kernel
  have hproduct : magnitudeOfNat m * magnitudeOfNat (Nat.pow 10 k) ≤
      one * (4 * 10 ^ digits * one) :=
    calc magnitudeOfNat m * magnitudeOfNat (Nat.pow 10 k)
        ≤ 2 * m * one * (2 * 10 ^ k * one) :=
          Nat.mul_le_mul (magnitudeOfNat_le hm)
            (magnitudeOfNat_le (Nat.pos_iff_ne_zero.mp (Nat.pow_pos (by decide))))
      _ = m * 10 ^ k * (4 * one * one) := by ring
      _ ≤ 10 ^ digits * (4 * one * one) := Nat.mul_le_mul_right _ h
      _ = one * (4 * 10 ^ digits * one) := by ring
  have hquotient := Nat.div_le_of_le_mul hproduct
  calc mul (magnitudeOfNat m) (magnitudeOfNat (Nat.pow 10 k))
      ≤ max 1 (2 * (magnitudeOfNat m * magnitudeOfNat (Nat.pow 10 k) / one)) := nearest_le _ _
    _ ≤ max 1 (2 * (4 * 10 ^ digits * one)) :=
        max_le_max_left 1 (Nat.mul_le_mul_left 2 hquotient)
    _ < limit := hbound digits hdigits

end Gatehouse.Binary64
