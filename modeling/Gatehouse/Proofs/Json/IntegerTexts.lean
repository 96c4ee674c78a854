import Gatehouse.Json.Basic
import Gatehouse.Proofs.Lists.Cutting
import Gatehouse.Proofs.Text.Trimming
import Gatehouse.Proofs.Text.Unsigned
/-!
Texts that are integers.

Parameters come as texts, so a text may stand where an integer is asked for. It must be one as a
whole, blanks at its ends aside:

    blanks, at most one sign, one digit or more, blanks          (isIntegerLike_string_iff)

The digits are the ten of ASCII, and there may be any number of them. What is told beside the
grammar is what it keeps out: a sign has nothing but blanks in front of it and a digit right behind
it, so no two signs can be there, and no blanks between a sign and its digits.
-/

namespace Gatehouse.Json

/-! ## The grammar -/

/-- A plus or a minus sign. -/
def IsSign (c : Char) : Prop :=
  c = '-' ∨ c = '+'

/-- At most one sign, then one digit or more. -/
inductive SignedDigits : List Char → Prop
  | plain {digits : List Char} : digits ≠ [] → (∀ c ∈ digits, c.isDigit = true) →
      SignedDigits digits
  | signed {sign : Char} {digits : List Char} : IsSign sign → digits ≠ [] →
      (∀ c ∈ digits, c.isDigit = true) → SignedDigits (sign :: digits)

/-- A text is an integer with blanks around it. -/
def WritesInteger (text : String) : Prop :=
  ∃ front cs back, text.toList = front ++ (cs ++ back) ∧ (∀ c ∈ front, Text.isBlank c = true) ∧
    (∀ c ∈ back, Text.isBlank c = true) ∧ SignedDigits cs

/-! ## Lemmas -/

theorem IsSign.not_isDigit {c : Char} (h : IsSign c) : c.isDigit = false := by
  rcases h with rfl | rfl <;> decide

theorem IsSign.not_isBlank {c : Char} (h : IsSign c) : Text.isBlank c = false := by
  rcases h with rfl | rfl <;> decide

theorem not_isBlank_of_isDigit {c : Char} (h : c.isDigit = true) : Text.isBlank c = false := by
  have hbounds := Ascii.isDigit_iff.mp h
  simp [Text.isBlank]
  omega

theorem isSignedDigits_iff {cs : List Char} : isSignedDigits cs = true ↔ SignedDigits cs := by
  constructor
  · intro h
    unfold isSignedDigits at h
    split at h <;> obtain ⟨hne, hdigits⟩ := Ascii.isDigits_iff.mp h
    · exact .signed (.inl rfl) hne hdigits
    · exact .signed (.inr rfl) hne hdigits
    · exact .plain hne hdigits
  · intro h
    cases h with
    | signed hsign hne hdigits =>
      rcases hsign with rfl | rfl <;> exact Ascii.isDigits_iff.mpr ⟨hne, hdigits⟩
    | plain hne hdigits =>
      unfold isSignedDigits
      -- no sign is a digit, so the last case is the one
      split
      · exact absurd (hdigits _ List.mem_cons_self) (by decide)
      · exact absurd (hdigits _ List.mem_cons_self) (by decide)
      · exact Ascii.isDigits_iff.mpr ⟨hne, hdigits⟩

theorem SignedDigits.ne_nil {cs : List Char} (h : SignedDigits cs) : cs ≠ [] := by
  cases h with
  | plain hne _ => exact hne
  | signed _ _ _ => exact List.cons_ne_nil _ _

theorem SignedDigits.mem_cases {cs : List Char} (h : SignedDigits cs) {c : Char} (hc : c ∈ cs) :
    IsSign c ∨ c.isDigit = true := by
  cases h with
  | plain _ hdigits => exact .inr (hdigits c hc)
  | signed hsign _ hdigits =>
    rcases List.mem_cons.mp hc with rfl | hc
    · exact .inl hsign
    · exact .inr (hdigits c hc)

theorem SignedDigits.not_isBlank {cs : List Char} (h : SignedDigits cs) :
    ∀ c ∈ cs, Text.isBlank c = false := by
  intro c hc
  rcases h.mem_cases hc with hsign | hdigit
  · exact hsign.not_isBlank
  · exact not_isBlank_of_isDigit hdigit

theorem SignedDigits.exists_isDigit {cs : List Char} (h : SignedDigits cs) :
    ∃ c ∈ cs, c.isDigit = true := by
  cases h with
  | plain hne hdigits =>
    obtain ⟨c, hc⟩ := List.exists_mem_of_ne_nil _ hne
    exact ⟨c, hc, hdigits c hc⟩
  | signed _ hne hdigits =>
    obtain ⟨c, hc⟩ := List.exists_mem_of_ne_nil _ hne
    exact ⟨c, List.mem_cons_of_mem _ hc, hdigits c hc⟩

/-- A sign is the first of the characters, and a digit is the next one. -/
theorem SignedDigits.sign_first {cs before after : List Char} {sign : Char} (h : SignedDigits cs)
    (hcs : cs = before ++ sign :: after) (hsign : IsSign sign) :
    before = [] ∧ ∃ d rest, after = d :: rest ∧ d.isDigit = true := by
  have hnot : ∀ digits : List Char, (∀ c ∈ digits, c.isDigit = true) → sign ∉ digits :=
    fun digits hdigits hmem => by
      have hdigit := hdigits sign hmem
      rw [hsign.not_isDigit] at hdigit
      cases hdigit
  cases h with
  | plain _ hdigits =>
    exact absurd (hcs ▸ List.mem_append_right _ List.mem_cons_self) (hnot _ hdigits)
  | @signed first digits _ hne hdigits =>
    cases before with
    | nil =>
      obtain ⟨rfl, rfl⟩ := List.cons.inj hcs
      obtain ⟨d, rest, rfl⟩ := List.exists_cons_of_ne_nil hne
      exact ⟨rfl, d, rest, rfl, hdigits d List.mem_cons_self⟩
    | cons c before =>
      obtain ⟨rfl, rfl⟩ := List.cons.inj hcs
      exact absurd (List.mem_append_right _ List.mem_cons_self) (hnot _ hdigits)

theorem isIntegerText_iff {text : String} : isIntegerText text = true ↔ WritesInteger text := by
  unfold isIntegerText
  rw [isSignedDigits_iff]
  exact Text.trim_iff_exists fun _ hcs => ⟨hcs.ne_nil, hcs.not_isBlank⟩

/-! ## The theorem -/

/-- **The texts that are integers.** A text reads as an integer iff it is blanks, at most one sign,
one digit or more, and blanks. So it has a digit, it has nothing but blanks, signs and digits, and a
sign has only blanks in front of it and a digit right behind it. -/
theorem isIntegerLike_string_iff (text : String) :
    ((Json.string text).isIntegerLike = true ↔ WritesInteger text) ∧
    (WritesInteger text →
      (∃ c ∈ text.toList, c.isDigit = true) ∧
      (∀ c ∈ text.toList, Text.isBlank c = true ∨ IsSign c ∨ c.isDigit = true) ∧
      ∀ before sign after, text.toList = before ++ sign :: after → IsSign sign →
        (∀ c ∈ before, Text.isBlank c = true) ∧ ∃ d rest, after = d :: rest ∧ d.isDigit = true) := by
  refine ⟨isIntegerText_iff, ?_⟩
  rintro ⟨front, cs, back, htext, hfront, hback, hcs⟩
  rw [htext]
  refine ⟨?_, fun c hc => ?_, fun before sign after hsplit hsign => ?_⟩
  · obtain ⟨c, hc, hdigit⟩ := hcs.exists_isDigit
    exact ⟨c, List.mem_append_right _ (List.mem_append_left _ hc), hdigit⟩
  · rcases List.mem_append.mp hc with hc | hc
    · exact .inl (hfront c hc)
    rcases List.mem_append.mp hc with hc | hc
    · exact .inr (hcs.mem_cases hc)
    · exact .inl (hback c hc)
  · have hnot : ∀ blanks : List Char, (∀ c ∈ blanks, Text.isBlank c = true) → sign ∉ blanks :=
      fun blanks hblanks hmem => by
        have hblank := hblanks sign hmem
        rw [hsign.not_isBlank] at hblank
        cases hblank
    obtain ⟨left, rfl, hleft⟩ := exists_split_right hsplit (hnot front hfront)
    obtain ⟨right, hcore, rfl⟩ := exists_split_left hleft (hnot back hback)
    obtain ⟨rfl, d, rest, rfl, hdigit⟩ := hcs.sign_first hcore hsign
    rw [List.append_nil]
    exact ⟨hfront, d, rest ++ back, rfl, hdigit⟩

/-- Leading zeros are digits; a second sign, a blank behind a sign and a digit of another script are
not. -/
example : isIntegerText "\u3000+007\t" = true ∧ isIntegerText "--7" = false ∧
    isIntegerText "- 7" = false ∧ isIntegerText "\u0667" = false ∧ isIntegerText "+" = false := by
  decide

end Gatehouse.Json
