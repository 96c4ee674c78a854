import Mathlib.Data.List.TakeWhile
/-!
Cutting lists.

A list is cut at the first separator, at every separator, or where one of two parts ends. Cutting at
every separator loses nothing (`splitOn_inj`), no piece has a separator (`mem_of_mem_splitOn`), and
where the pieces are cut in two, the list is cut at a separator (`exists_of_splitOn_eq_append`).
-/

namespace Gatehouse

/-! ## At the first separator -/

section

variable {α : Type} [BEq α] [LawfulBEq α] {separator : α} {front : List α}

theorem bne_of_notMem (h : separator ∉ front) : ∀ a ∈ front, (a != separator) = true := by
  intro a ha
  rw [bne_iff_ne]
  rintro rfl
  exact h ha

theorem takeWhile_separator (h : separator ∉ front) (back : List α) :
    (front ++ separator :: back).takeWhile (· != separator) = front := by
  rw [List.takeWhile_append_of_pos (bne_of_notMem h), List.takeWhile_cons_of_neg (by simp),
    List.append_nil]

theorem dropWhile_separator (h : separator ∉ front) (back : List α) :
    (front ++ separator :: back).dropWhile (· != separator) = separator :: back := by
  rw [List.dropWhile_append_of_pos (bne_of_notMem h), List.dropWhile_cons_of_neg (by simp)]

end

/-! ## At every separator -/

section

variable {α : Type} [BEq α] [LawfulBEq α] {separator : α} {xs ys : List α}

theorem splitOn_append_separator (separator : α) (front back : List α) :
    (front ++ separator :: back).splitOn separator =
      front.splitOn separator ++ back.splitOn separator := by
  rw [List.splitOn_eq_splitOnP, List.splitOn_eq_splitOnP, List.splitOn_eq_splitOnP]
  exact List.splitOnP_append_cons front back (beq_self_eq_true separator)

/-- A list is told by its pieces. -/
theorem splitOn_inj (h : xs.splitOn separator = ys.splitOn separator) : xs = ys :=
  calc
    xs = List.intercalate [separator] (xs.splitOn separator) :=
      (List.intercalate_splitOn separator).symm
    _ = List.intercalate [separator] (ys.splitOn separator) := by rw [h]
    _ = ys := List.intercalate_splitOn separator

/-- One empty piece is that of nothing. -/
theorem eq_nil_of_splitOn (h : xs.splitOn separator = [[]]) : xs = [] :=
  splitOn_inj (h.trans (List.splitOn_nil separator).symm)

/-- What is in a piece is in the list, and is no separator. -/
theorem mem_of_mem_splitOn {piece : List α} {a : α} (hpiece : piece ∈ xs.splitOn separator)
    (ha : a ∈ piece) : a ∈ xs ∧ a ≠ separator := by
  induction xs generalizing piece with
  | nil =>
    rw [List.splitOn_nil, List.mem_singleton] at hpiece
    rw [hpiece] at ha
    cases ha
  | cons x rest ih =>
    rw [List.splitOn_cons_eq_if_modifyHead] at hpiece
    obtain ⟨first, others, hsplit⟩ :=
      List.exists_cons_of_ne_nil (List.splitOn_ne_nil separator rest)
    have hrest : ∀ {other : List α}, other ∈ rest.splitOn separator → a ∈ other →
        a ∈ x :: rest ∧ a ≠ separator := fun hother hmem =>
      ⟨List.mem_cons_of_mem x (ih hother hmem).1, (ih hother hmem).2⟩
    by_cases hx : x = separator
    · rw [if_pos (beq_iff_eq.mpr hx)] at hpiece
      rcases List.mem_cons.mp hpiece with rfl | hother
      · cases ha
      · exact hrest hother ha
    · rw [if_neg (fun h => hx (beq_iff_eq.mp h)), hsplit, List.modifyHead_cons] at hpiece
      rw [hsplit] at hrest
      rcases List.mem_cons.mp hpiece with rfl | hother
      · rcases List.mem_cons.mp ha with rfl | hfirst
        · exact ⟨List.mem_cons_self, hx⟩
        · exact hrest List.mem_cons_self hfirst
      · exact hrest (List.mem_cons_of_mem first hother) ha

/-- Where the pieces of a list are cut in two, the list is cut at a separator. -/
theorem exists_of_splitOn_eq_append {front back : List (List α)}
    (h : xs.splitOn separator = front ++ back) (hfront : front ≠ []) (hback : back ≠ []) :
    ∃ f b, xs = f ++ separator :: b ∧ f.splitOn separator = front ∧
      b.splitOn separator = back := by
  have hfree : ∀ piece ∈ front ++ back, separator ∉ piece := by
    intro piece hpiece hmem
    rw [← h] at hpiece
    exact (mem_of_mem_splitOn hpiece hmem).2 rfl
  have hf : (List.intercalate [separator] front).splitOn separator = front :=
    List.splitOn_intercalate separator
      (fun piece hpiece => hfree piece (List.mem_append_left back hpiece)) hfront
  have hb : (List.intercalate [separator] back).splitOn separator = back :=
    List.splitOn_intercalate separator
      (fun piece hpiece => hfree piece (List.mem_append_right front hpiece)) hback
  have hjoined : xs.splitOn separator =
      (List.intercalate [separator] front ++ separator :: List.intercalate [separator] back).splitOn
        separator := by
    rw [splitOn_append_separator, hf, hb, h]
  exact ⟨_, _, splitOn_inj hjoined, hf, hb⟩

/-- All pieces are empty iff there is nothing but separators. -/
theorem splitOn_eq_nils_iff :
    (∀ piece ∈ xs.splitOn separator, piece = []) ↔ ∀ x ∈ xs, x = separator := by
  induction xs with
  | nil => simp
  | cons x xs ih =>
    rw [List.splitOn_cons_eq_if_modifyHead, List.forall_mem_cons]
    by_cases hx : x = separator
    · rw [if_pos (beq_iff_eq.mpr hx), List.forall_mem_cons, ih]
      simp [hx]
    · rw [if_neg (by simpa using hx)]
      -- what is no separator is in the first piece
      cases hsplit : xs.splitOn separator with
      | nil => exact absurd hsplit (List.splitOn_ne_nil _ _)
      | cons piece pieces => simp [hx]

/-- The pieces that have something in them are those that were joined. -/
theorem filter_splitOn_intercalate {pieces : List (List α)} (h : ∀ p ∈ pieces, separator ∉ p) :
    (([separator].intercalate pieces).splitOn separator).filter (!·.isEmpty) =
      pieces.filter (!·.isEmpty) := by
  by_cases hne : pieces = []
  · rw [hne]
    rfl
  · rw [List.splitOn_intercalate _ h hne]

end

/-! ## Where a part ends -/

section

variable {α : Type} {xs ys before after : List α} {a : α}

/-- What is not in the first of two parts is in the second. -/
theorem exists_split_right (h : xs ++ ys = before ++ a :: after) (ha : a ∉ xs) :
    ∃ left, before = xs ++ left ∧ ys = left ++ a :: after := by
  rcases List.append_eq_append_iff.mp h with ⟨left, hbefore, hys⟩ | ⟨skipped, hxs, hafter⟩
  · exact ⟨left, hbefore, hys⟩
  · cases skipped with
    | nil => exact ⟨[], by simpa using hxs.symm, by simpa using hafter.symm⟩
    | cons b skipped =>
      obtain ⟨rfl, -⟩ := List.cons.inj hafter
      exact absurd (hxs ▸ List.mem_append_right _ List.mem_cons_self) ha

/-- What is not in the second of two parts is in the first. -/
theorem exists_split_left (h : xs ++ ys = before ++ a :: after) (ha : a ∉ ys) :
    ∃ right, xs = before ++ a :: right ∧ after = right ++ ys := by
  rcases List.append_eq_append_iff.mp h with ⟨skipped, -, hys⟩ | ⟨tail, hxs, hafter⟩
  · exact absurd (hys ▸ List.mem_append_right _ List.mem_cons_self) ha
  · cases tail with
    | nil => exact absurd (List.mem_of_mem_head? (congrArg List.head? hafter.symm)) ha
    | cons b right =>
      obtain ⟨rfl, rfl⟩ := List.cons.inj hafter
      exact ⟨right, hxs, rfl⟩

end

end Gatehouse
