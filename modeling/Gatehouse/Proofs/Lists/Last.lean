import Mathlib.Data.List.Induction
/-!
The last of a list with a property.

Where the same is said several times, the last time often counts. The lemmas tell how the last
depends on the list: on its end first (`isLast_concat_iff`), and from that, by induction from the
end, on two parts of it, on images and on what is left out.

    IsLast P (xs ++ [last]) x  ↔  if P last then x = last else IsLast P xs x
-/

namespace Gatehouse

/-- The last of a list with a property. -/
def IsLast {α : Type} (P : α → Prop) (xs : List α) (x : α) : Prop :=
  ∃ before after, xs = before ++ x :: after ∧ P x ∧ ∀ y ∈ after, ¬P y

variable {α : Type} {P : α → Prop}

theorem not_isLast_nil {x : α} : ¬IsLast P [] x := by
  rintro ⟨before, after, hsplit, -⟩
  simp at hsplit

theorem IsLast.mem {xs : List α} {x : α} (h : IsLast P xs x) : x ∈ xs ∧ P x := by
  obtain ⟨before, after, rfl, hx, -⟩ := h
  exact ⟨by simp, hx⟩

variable [DecidablePred P]

/-- The end of a list decides, if it has the property at all. -/
theorem isLast_concat_iff {xs : List α} {last x : α} :
    IsLast P (xs ++ [last]) x ↔ if P last then x = last else IsLast P xs x := by
  constructor
  · rintro ⟨before, after, hsplit, hx, hafter⟩
    rcases List.eq_nil_or_concat after with rfl | ⟨after', y, rfl⟩
    · obtain ⟨-, hlast⟩ := List.append_inj' hsplit rfl
      obtain rfl := (List.cons.inj hlast).1
      rw [if_pos hx]
    · rw [List.concat_eq_append] at hsplit hafter
      rw [← List.cons_append, ← List.append_assoc] at hsplit
      obtain ⟨hxs, hlast⟩ := List.append_inj' hsplit rfl
      obtain rfl := (List.cons.inj hlast).1
      rw [if_neg (hafter last (by simp))]
      exact ⟨before, after', hxs, hx, fun y hy => hafter y (by simp [hy])⟩
  · intro h
    by_cases hlast : P last
    · rw [if_pos hlast] at h
      subst h
      exact ⟨xs, [], rfl, hlast, fun _ hy => nomatch hy⟩
    · rw [if_neg hlast] at h
      obtain ⟨before, after, rfl, hx, hafter⟩ := h
      refine ⟨before, after ++ [last], by simp, hx, fun y hy => ?_⟩
      rcases List.mem_append.mp hy with hy | hy
      · exact hafter y hy
      · obtain rfl := List.mem_singleton.mp hy
        exact hlast

theorem exists_isLast_iff {xs : List α} : (∃ x, IsLast P xs x) ↔ ∃ x ∈ xs, P x := by
  constructor
  · rintro ⟨x, hlast⟩
    exact ⟨x, hlast.mem⟩
  · intro h
    induction xs using List.reverseRecOn with
    | nil => simp at h
    | append_singleton xs last ih =>
      simp only [isLast_concat_iff]
      by_cases hlast : P last
      · exact ⟨last, by rw [if_pos hlast]⟩
      · simp only [if_neg hlast]
        obtain ⟨x, hx, hP⟩ := h
        rcases List.mem_append.mp hx with hx | hx
        · exact ih ⟨x, hx, hP⟩
        · obtain rfl := List.mem_singleton.mp hx
          exact absurd hP hlast

theorem isLast_append_of_right {xs ys : List α} (h : ∀ y ∈ ys, ¬P y) {x : α} :
    IsLast P (xs ++ ys) x ↔ IsLast P xs x := by
  induction ys using List.reverseRecOn with
  | nil => rw [List.append_nil]
  | append_singleton ys last ih =>
    rw [← List.append_assoc, isLast_concat_iff, if_neg (h last (by simp))]
    exact ih fun y hy => h y (List.mem_append_left _ hy)

theorem isLast_append_of_left {xs ys : List α} (h : ∀ y ∈ xs, ¬P y) {x : α} :
    IsLast P (xs ++ ys) x ↔ IsLast P ys x := by
  induction ys using List.reverseRecOn with
  | nil =>
    rw [List.append_nil]
    exact iff_of_false (fun hlast => h x hlast.mem.1 hlast.mem.2) not_isLast_nil
  | append_singleton ys last ih =>
    rw [← List.append_assoc, isLast_concat_iff, isLast_concat_iff, ih]

theorem isLast_map_iff {β : Type} {xs : List β} {f : β → α} {y : α} :
    IsLast P (xs.map f) y ↔ ∃ x, y = f x ∧ IsLast (fun x => P (f x)) xs x := by
  induction xs using List.reverseRecOn with
  | nil =>
    refine iff_of_false not_isLast_nil ?_
    rintro ⟨x, -, hlast⟩
    exact not_isLast_nil hlast
  | append_singleton xs last ih =>
    rw [List.map_append, List.map_singleton, isLast_concat_iff]
    simp only [isLast_concat_iff]
    by_cases hlast : P (f last)
    · simp only [if_pos hlast, exists_eq_right]
    · simp only [if_neg hlast, ih]

theorem isLast_filter_iff {xs : List α} {test : α → Bool} (h : ∀ x, P x → test x = true) {x : α} :
    IsLast P (xs.filter test) x ↔ IsLast P xs x := by
  induction xs using List.reverseRecOn with
  | nil => rfl
  | append_singleton xs last ih =>
    rw [List.filter_append, isLast_concat_iff]
    by_cases htest : test last = true
    · rw [List.filter_cons_of_pos htest, List.filter_nil, isLast_concat_iff, ih]
    · have hlast : ¬P last := fun hP => htest (h last hP)
      rw [List.filter_cons_of_neg htest, List.filter_nil, List.append_nil, if_neg hlast, ih]

end Gatehouse
