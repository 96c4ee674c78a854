import Mathlib.Data.List.Forall2
/-!
Steps that may fail, one after the other.

A run over a list succeeds iff all of its steps do, and if it fails, then with the error of the
first step that does:

    xs.mapM f = .ok ys      ↔  each of ys is read from the one of xs        (mapM_eq_ok_iff)
    xs.mapM f = .error e    ↔  some x fails with e, and none before it      (mapM_eq_error_iff)
    xs.foldlM f s = .error e  ↔  a run up to some x succeeds, and the next step fails with e
                                                                         (foldlM_eq_error_iff)
-/

namespace Gatehouse

theorem eq_ok_of_toOption {ε α : Type} {x : Except ε α} {a : α} (h : x.toOption = some a) :
    x = .ok a := by
  cases x with
  | error e => cases h
  | ok b => rw [Option.some.inj h]

theorem bind_eq_ok_iff {α β ε : Type} {x : Except ε α} {f : α → Except ε β} {b : β} :
    (x >>= f) = .ok b ↔ ∃ a, x = .ok a ∧ f a = .ok b := by
  cases x with
  | error e => simp [bind, Except.bind]
  | ok a => simp [bind, Except.bind]

/-! ## Values that are read one by one -/

/-- Values are read all together iff each is read. -/
theorem mapM_eq_ok_iff {α β ε : Type} {f : α → Except ε β} {xs : List α} {ys : List β} :
    xs.mapM f = .ok ys ↔ List.Forall₂ (fun x y => f x = .ok y) xs ys := by
  induction xs generalizing ys with
  | nil =>
    rw [List.forall₂_nil_left_iff]
    show Except.ok [] = Except.ok ys ↔ _
    rw [Except.ok.injEq]
    exact eq_comm
  | cons x xs ih =>
    rw [List.mapM_cons, bind_eq_ok_iff, List.forall₂_cons_left_iff]
    refine exists_congr fun y => ?_
    rw [bind_eq_ok_iff]
    constructor
    · rintro ⟨hx, rest, hrest, heq⟩
      exact ⟨rest, hx, ih.mp hrest, (Except.ok.inj heq).symm⟩
    · rintro ⟨rest, hx, hrest, rfl⟩
      exact ⟨hx, rest, ih.mpr hrest, rfl⟩

/-- Values are not read all together iff one of them is not read, and the first such one tells
why. -/
theorem mapM_eq_error_iff {α β ε : Type} {f : α → Except ε β} {xs : List α} {e : ε} :
    xs.mapM f = .error e ↔ ∃ before x after, xs = before ++ x :: after ∧
      (∀ y ∈ before, ∃ b, f y = .ok b) ∧ f x = .error e := by
  induction xs with
  | nil =>
    refine iff_of_false (fun h => nomatch h) ?_
    rintro ⟨before, x, after, hsplit, -⟩
    simp at hsplit
  | cons x xs ih =>
    rw [List.mapM_cons]
    cases hx : f x with
    | error e' =>
      constructor
      · intro h
        obtain rfl := Except.error.inj h
        exact ⟨[], x, xs, rfl, fun _ hy => (nomatch hy), hx⟩
      · rintro ⟨before, y, after, hsplit, hbefore, hy⟩
        cases before with
        | nil =>
          obtain ⟨rfl, -⟩ := List.cons.inj hsplit
          obtain rfl := Except.error.inj (hx.symm.trans hy)
          rfl
        | cons z before =>
          obtain ⟨rfl, -⟩ := List.cons.inj hsplit
          obtain ⟨b, hb⟩ := hbefore x List.mem_cons_self
          rw [hx] at hb
          cases hb
    | ok b =>
      have hrest : (xs.mapM f >>= fun bs => pure (b :: bs)) = (.error e : Except ε (List β)) ↔
          xs.mapM f = .error e := by
        cases xs.mapM f with
        | error e' => exact Iff.rfl
        | ok bs => exact iff_of_false (fun h => nomatch h) (fun h => nomatch h)
      refine hrest.trans (ih.trans ?_)
      constructor
      · rintro ⟨before, y, after, rfl, hbefore, hy⟩
        refine ⟨x :: before, y, after, rfl, fun z hz => ?_, hy⟩
        rcases List.mem_cons.mp hz with rfl | hz
        · exact ⟨b, hx⟩
        · exact hbefore z hz
      · rintro ⟨before, y, after, hsplit, hbefore, hy⟩
        cases before with
        | nil =>
          obtain ⟨rfl, -⟩ := List.cons.inj hsplit
          rw [hx] at hy
          cases hy
        | cons z before =>
          obtain ⟨-, rfl⟩ := List.cons.inj hsplit
          exact ⟨before, y, after, rfl, fun z hz => hbefore z (List.mem_cons_of_mem _ hz), hy⟩

/-- What stands behind a value that is not read makes no difference. -/
theorem mapM_eq_of_error {α β ε : Type} {f : α → Except ε β} {x : α} {e : ε} (h : f x = .error e)
    (before after after' : List α) :
    (before ++ x :: after).mapM f = (before ++ x :: after').mapM f := by
  rw [List.mapM_append, List.mapM_append, List.mapM_cons, List.mapM_cons, h]
  rfl

/-! ## A state that is carried along -/

/-- A run fails iff it gets to a step that fails. -/
theorem foldlM_eq_error_iff {α σ ε : Type} {f : σ → α → Except ε σ} {xs : List α} {start : σ}
    {e : ε} :
    xs.foldlM f start = .error e ↔ ∃ before x after state, xs = before ++ x :: after ∧
      before.foldlM f start = .ok state ∧ f state x = .error e := by
  constructor
  · intro h
    induction xs generalizing start with
    | nil => cases h
    | cons x xs ih =>
      rw [List.foldlM_cons] at h
      cases hx : f start x with
      | error e' =>
        rw [hx] at h
        obtain rfl := Except.error.inj h
        exact ⟨[], x, xs, start, rfl, rfl, hx⟩
      | ok state =>
        rw [hx] at h
        obtain ⟨before, y, after, state', rfl, hbefore, hy⟩ := ih h
        refine ⟨x :: before, y, after, state', rfl, ?_, hy⟩
        rw [List.foldlM_cons, hx]
        exact hbefore
  · rintro ⟨before, x, after, state, rfl, hbefore, hx⟩
    rw [List.foldlM_append, hbefore]
    show List.foldlM f state (x :: after) = _
    rw [List.foldlM_cons, hx]
    rfl

theorem foldlM_congr {α β σ ε : Type} {f : σ → α → Except ε σ} {g : σ → β → Except ε σ}
    {xs : List α} {ys : List β} (h : List.Forall₂ (fun x y => ∀ s, f s x = g s y) xs ys) (s : σ) :
    xs.foldlM f s = ys.foldlM g s := by
  induction h generalizing s with
  | nil => rfl
  | cons hxy _ ih =>
    rw [List.foldlM_cons, List.foldlM_cons, hxy]
    exact congrArg _ (funext ih)

end Gatehouse
