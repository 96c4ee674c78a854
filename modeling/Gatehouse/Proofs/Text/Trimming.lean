import Gatehouse.Text.Blank
import Mathlib.Data.List.TakeWhile
/-!
Blanks around a text.

Trimming takes blanks from both ends and nothing else. Where what is left has no blanks inside, it
is told by the text alone, without the order in which the ends are trimmed:

    P (trim cs)  ↔  cs is a core with P, and blanks on both sides of it    (trim_iff_exists)

for every P that only characters without blanks have, such as those of a number.
-/

namespace Gatehouse.Text

theorem dropWhile_isBlank {front cs : List Char} (hfront : ∀ c ∈ front, isBlank c = true)
    (hcs : ∀ c ∈ cs, isBlank c = false) (hne : cs ≠ []) (back : List Char) :
    (front ++ (cs ++ back)).dropWhile isBlank = cs ++ back := by
  obtain ⟨c, cs, rfl⟩ := List.exists_cons_of_ne_nil hne
  rw [List.dropWhile_append_of_pos hfront, List.cons_append, List.dropWhile_cons_of_neg]
  rw [hcs c List.mem_cons_self]
  exact Bool.false_ne_true

/-- Blanks around characters that are no blanks are trimmed. -/
theorem trim_append {front cs back : List Char} (hfront : ∀ c ∈ front, isBlank c = true)
    (hback : ∀ c ∈ back, isBlank c = true) (hcs : ∀ c ∈ cs, isBlank c = false) (hne : cs ≠ []) :
    trim (front ++ (cs ++ back)) = cs := by
  have hback' : ∀ c ∈ back.reverse, isBlank c = true := fun c hc => hback c (List.mem_reverse.mp hc)
  have hcs' : ∀ c ∈ cs.reverse, isBlank c = false := fun c hc => hcs c (List.mem_reverse.mp hc)
  have hdrop := dropWhile_isBlank hback' hcs' (List.reverse_ne_nil_iff.mpr hne) []
  rw [List.append_nil] at hdrop
  unfold trim
  rw [dropWhile_isBlank hfront hcs hne, List.reverse_append, hdrop, List.reverse_reverse]

/-- Only blanks are trimmed. -/
theorem exists_append_trim (cs : List Char) :
    ∃ front back, cs = front ++ (trim cs ++ back) ∧ (∀ c ∈ front, isBlank c = true) ∧
      ∀ c ∈ back, isBlank c = true := by
  refine ⟨cs.takeWhile isBlank, ((cs.dropWhile isBlank).reverse.takeWhile isBlank).reverse, ?_,
    fun c hc => List.mem_takeWhile_imp hc,
    fun c hc => List.mem_takeWhile_imp (List.mem_reverse.mp hc)⟩
  unfold trim
  rw [← List.reverse_append, List.takeWhile_append_dropWhile, List.reverse_reverse,
    List.takeWhile_append_dropWhile]

/-- What is left has a property of characters without blanks iff the text is such characters with
blanks around them. -/
theorem trim_iff_exists {P : List Char → Prop}
    (hP : ∀ core, P core → core ≠ [] ∧ ∀ c ∈ core, isBlank c = false) {cs : List Char} :
    P (trim cs) ↔ ∃ front core back, cs = front ++ (core ++ back) ∧
      (∀ c ∈ front, isBlank c = true) ∧ (∀ c ∈ back, isBlank c = true) ∧ P core := by
  constructor
  · intro h
    obtain ⟨front, back, hcs, hfront, hback⟩ := exists_append_trim cs
    exact ⟨front, trim cs, back, hcs, hfront, hback, h⟩
  · rintro ⟨front, core, back, rfl, hfront, hback, hcore⟩
    obtain ⟨hne, hblank⟩ := hP core hcore
    rw [trim_append hfront hback hblank hne]
    exact hcore

end Gatehouse.Text
