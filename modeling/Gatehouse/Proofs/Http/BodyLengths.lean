import Gatehouse.Proofs.Http.UndeclaredRoutes
/-!
How long a body may be.

A guard has a limit for bodies, and what is over it is not read at all. What is within it is read by
its media type, and there the length should not count any more. For JSON and for plain texts it does
not. But forms are read by a reader with a limit of its own, which no guard can set:

    JSON        not read  ↔  it is not JSON
    a form      not read  ↔  it is longer than 2097152 bytes
    any other   always read                                        (parse_eq_error_iff)

So the limit of a guard is the only one as long as it is not larger than that of forms, and the
answers of two guards with different limits are the same within both (`handOn_of_fits_iff`). With a
larger limit a form may be refused for its length, and is then told to be malformed
(`not_handsOn_longForm`).
-/

namespace Gatehouse.Http

/-! ## Bodies that are not read -/

/-- The headers name a form, and it is longer than the reader of forms takes. -/
structure LongForm (headers : Headers) (bytes : List UInt8) : Prop where
  named : headers.NamesForm
  tooLong : Body.maxFormLength < bytes.length

/-- What is wrong with a body that is not read. -/
inductive Unread (headers : Headers) (bytes : List UInt8) : Problem → Prop
  | brokenJson {e : Json.Error} : BrokenJson headers bytes e →
      Unread headers bytes (.malformedBody e.message)
  | longForm : LongForm headers bytes →
      Unread headers bytes
        (.malformedBody "Failed to buffer the request body: length limit exceeded")

/-! ## Lemmas -/

variable {headers : Headers} {bytes : List UInt8}

/-- A form that is not too long is read as its named values. -/
theorem parse_of_namesForm (h : headers.NamesForm) (hlength : bytes.length ≤ Body.maxFormLength) :
    Body.parse headers bytes =
      .ok (if bytes = [] then none else some (.object (Query.ofPairs (Form.pairs bytes)))) := by
  by_cases hne : bytes = []
  · rw [if_pos hne, hne]
    rfl
  · rw [if_neg hne, Guard.parse_of_ne_nil headers hne, ofHeaders_eq,
      if_neg (not_namesJson_of_namesForm h), if_pos h]
    simp only [Body.decode, if_neg (Nat.not_lt.mpr hlength), Except.map]

theorem LongForm.parse_eq (h : LongForm headers bytes) :
    Body.parse headers bytes =
      .error (.malformedBody "Failed to buffer the request body: length limit exceeded") := by
  have hne : bytes ≠ [] := List.ne_nil_of_length_pos (Nat.zero_lt_of_lt h.tooLong)
  rw [Guard.parse_of_ne_nil headers hne, ofHeaders_eq,
    if_neg (not_namesJson_of_namesForm h.named), if_pos h.named]
  simp only [Body.decode, gt_iff_lt, if_pos h.tooLong, Except.map]

/-- A body is not read iff it is broken JSON or a form that is too long. -/
theorem parse_eq_error_iff {problem : Problem} :
    Body.parse headers bytes = .error problem ↔ Unread headers bytes problem := by
  constructor
  · intro h
    by_cases hbroken : ∃ e, BrokenJson headers bytes e
    · obtain ⟨e, hbroken⟩ := hbroken
      obtain rfl := Except.error.inj (hbroken.parse_eq.symm.trans h)
      exact .brokenJson hbroken
    by_cases hlong : LongForm headers bytes
    · obtain rfl := Except.error.inj (hlong.parse_eq.symm.trans h)
      exact .longForm hlong
    · obtain ⟨body, hbody⟩ := exists_parse_of_not_broken hbroken fun hnamed =>
        Nat.le_of_not_lt fun htooLong => hlong ⟨hnamed, htooLong⟩
      cases hbody.symm.trans h
  · intro h
    cases h with
    | brokenJson hbroken => exact hbroken.parse_eq
    | longForm hlong => exact hlong.parse_eq

namespace Guard

variable {guard : Guard} {request : Request}

/-- What is refused of the requests that fit: bodies that are not read, and what is rejected of
those that are. -/
theorem handOn_eq_error_iff (hfits : guard.Fits request) {problem : Problem} :
    guard.handOn request = .error problem ↔
      Unread request.headers request.body problem ∨
      ∃ body rejection, Body.parse request.headers request.body = .ok body ∧
        guard.table.check (descriptor request body) = .rejected rejection ∧
        problem = .ofRejection rejection := by
  rw [← parse_eq_error_iff, handOn_of_fits hfits]
  cases hparse : Body.parse request.headers request.body with
  | error other =>
    simp only [Except.error.injEq, reduceCtorEq, false_and, exists_false, or_false]
  | ok body =>
    simp only [reduceCtorEq, false_or, Except.ok.injEq]
    cases hcheck : guard.table.check (descriptor request body) with
    | accepted => simp [hcheck]
    | rejected rejection => simp [hcheck, eq_comm]

/-- The limit of a guard does not count for what is within it. -/
theorem handOn_congr (hfits : guard.Fits request) {bodyLimit : Nat}
    (hfits' : Guard.Fits { guard with bodyLimit } request) :
    Guard.handOn { guard with bodyLimit } request = guard.handOn request := by
  rw [handOn_of_fits hfits, handOn_of_fits hfits']

/-! ## The theorem -/

/-- **What a length counts for.** Let the declared length and the body of a request be within the
limit of a guard. Then it is refused iff its body is broken JSON, or a form longer than the reader
of forms takes, or if what is read is rejected. All other forms are read as their named values, if
they have any bytes. A guard whose limit is not over that of forms does not refuse any body for its
length, and no other limit that the request is within makes a difference. -/
theorem handOn_of_fits_iff (guard : Guard) (request : Request) (hfits : guard.Fits request) :
    (∀ problem, guard.handOn request = .error problem ↔
      Unread request.headers request.body problem ∨
      ∃ body rejection, Body.parse request.headers request.body = .ok body ∧
        guard.table.check (descriptor request body) = .rejected rejection ∧
        problem = .ofRejection rejection) ∧
    (request.headers.NamesForm → ¬LongForm request.headers request.body →
      Body.parse request.headers request.body =
        .ok (if request.body = [] then none
          else some (.object (Query.ofPairs (Form.pairs request.body))))) ∧
    (guard.bodyLimit ≤ Body.maxFormLength → ¬LongForm request.headers request.body) ∧
    (∀ bodyLimit, Guard.Fits { guard with bodyLimit } request →
      Guard.handOn { guard with bodyLimit } request = guard.handOn request) := by
  refine ⟨fun problem => handOn_eq_error_iff hfits, ?_, ?_, fun _ => handOn_congr hfits⟩
  · intro hnamed hnot
    exact parse_of_namesForm hnamed (Nat.le_of_not_lt fun htooLong => hnot ⟨hnamed, htooLong⟩)
  · intro hlimit hlong
    exact absurd hlong.tooLong (Nat.not_lt.mpr (hfits.2.trans hlimit))

/-- A form without pairs: separators, and nothing between them. -/
def emptyForm (length : Nat) : Request :=
  strayRequest "application/x-www-form-urlencoded" (List.replicate length '&'.toUInt8)

/-- A guard with twice the limit of the reader of forms, and without rules. -/
def wideGuard : Guard :=
  ⟨.empty, 4194304⟩

theorem namesForm_emptyForm (length : Nat) : (emptyForm length).headers.NamesForm := by
  have hnamed : Headers.NamesForm
      [("content-type", Utf8.encode "application/x-www-form-urlencoded")] := by
    decide
  exact hnamed

theorem length_emptyForm (length : Nat) : (emptyForm length).body.length = length :=
  List.length_replicate

theorem fits_emptyForm {length : Nat} (h : length ≤ 4194304) : wideGuard.Fits (emptyForm length) :=
  fits_strayRequest (by rw [List.length_replicate]; exact h)

/-- The longest form is read. -/
theorem parse_longestForm :
    wideGuard.Fits (emptyForm 2097152) ∧
    Body.parse (emptyForm 2097152).headers (emptyForm 2097152).body = .ok (some (.object [])) := by
  have hfits : wideGuard.Fits (emptyForm 2097152) := fits_emptyForm (by decide)
  have hshort : ¬LongForm (emptyForm 2097152).headers (emptyForm 2097152).body := fun hlong =>
    absurd hlong.tooLong (by rw [length_emptyForm]; decide)
  have hread := (handOn_of_fits_iff wideGuard _ hfits).2.1 (namesForm_emptyForm _) hshort
  have hpairs : Form.pairs (emptyForm 2097152).body = [] :=
    pairs_eq_nil_iff.mpr fun b hb => List.eq_of_mem_replicate hb
  have hne : (emptyForm 2097152).body ≠ [] :=
    List.ne_nil_of_length_pos (by rw [length_emptyForm]; decide)
  rw [if_neg hne, hpairs] at hread
  exact ⟨hfits, hread⟩

/-- A form with one byte more is refused, far within the limit of the guard, and it is told that it
is malformed. -/
theorem not_handsOn_longForm :
    wideGuard.Fits (emptyForm 2097153) ∧ ¬(emptyForm 2097153).headers.NamesJson ∧
    wideGuard.handOn (emptyForm 2097153) = .error
      (.malformedBody "Failed to buffer the request body: length limit exceeded") ∧
    ¬wideGuard.HandsOn (emptyForm 2097153) := by
  have hfits : wideGuard.Fits (emptyForm 2097153) := fits_emptyForm (by decide)
  have hlong : LongForm (emptyForm 2097153).headers (emptyForm 2097153).body :=
    ⟨namesForm_emptyForm _, by rw [length_emptyForm]; decide⟩
  have herror := (handOn_eq_error_iff hfits).mpr (.inl (.longForm hlong))
  exact ⟨hfits, not_namesJson_of_namesForm hlong.named, herror,
    (refuses_of_error herror).not_handsOn⟩

end Guard

end Gatehouse.Http
