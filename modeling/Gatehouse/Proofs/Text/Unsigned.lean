import Gatehouse.Proofs.Text.Encoding
import Gatehouse.Text.Ascii
import Gatehouse.Text.Blank
/-!
Unsigned numbers in texts and in bytes.

`Ascii.Denotes cs n` says that characters are a number as it may be written: at most one plus
sign, then one digit or more.

    unsigned? limit cs = some n  ↔  Denotes cs n ∧ n ≤ limit        (unsigned?_eq_some_iff)

Such texts are ASCII, where each byte is a character of its own, so that bytes which are decoded to
one are what it is encoded as (`encode_of_decode?_ascii`).
-/

namespace Gatehouse

namespace Ascii

/-- Digits, perhaps with a plus sign before them, that denote a number. -/
def Denotes (cs : List Char) (n : Nat) : Prop :=
  ∃ digits, (cs = digits ∨ cs = '+' :: digits) ∧ digits ≠ [] ∧
    (∀ c ∈ digits, c.isDigit = true) ∧ natOfDigits digits = n

theorem isDigits_iff {cs : List Char} :
    isDigits cs = true ↔ cs ≠ [] ∧ ∀ c ∈ cs, c.isDigit = true := by
  unfold isDigits
  simp

/-- What is behind the plus sign, if there is one. -/
theorem unsigned?_plus (limit : Nat) (cs : List Char) :
    unsigned? limit ('+' :: cs) =
      if isDigits cs && natOfDigits cs ≤ limit then some (natOfDigits cs) else none := rfl

theorem unsigned?_plain (limit : Nat) {cs : List Char} (h : ∀ r, cs ≠ '+' :: r) :
    unsigned? limit cs =
      if isDigits cs && natOfDigits cs ≤ limit then some (natOfDigits cs) else none := by
  unfold unsigned?
  split
  · next r => exact absurd rfl (h r)
  · rfl

theorem ite_isDigits_eq_some_iff {limit n : Nat} {cs : List Char} :
    (if isDigits cs && natOfDigits cs ≤ limit then some (natOfDigits cs) else none) = some n ↔
      cs ≠ [] ∧ (∀ c ∈ cs, c.isDigit = true) ∧ natOfDigits cs = n ∧ n ≤ limit := by
  simp only [Bool.and_eq_true, isDigits_iff, decide_eq_true_eq, Option.ite_none_right_eq_some,
    Option.some.injEq]
  constructor
  · rintro ⟨⟨⟨hne, hdigits⟩, hle⟩, rfl⟩
    exact ⟨hne, hdigits, rfl, hle⟩
  · rintro ⟨hne, hdigits, rfl, hle⟩
    exact ⟨⟨⟨hne, hdigits⟩, hle⟩, rfl⟩

/-- An unsigned number is read iff the text denotes it and it is within the limit. -/
theorem unsigned?_eq_some_iff {limit n : Nat} {cs : List Char} :
    unsigned? limit cs = some n ↔ Denotes cs n ∧ n ≤ limit := by
  by_cases hplus : ∃ r, cs = '+' :: r
  · obtain ⟨r, rfl⟩ := hplus
    rw [unsigned?_plus, ite_isDigits_eq_some_iff]
    constructor
    · rintro ⟨hne, hdigits, hn, hle⟩
      exact ⟨⟨r, .inr rfl, hne, hdigits, hn⟩, hle⟩
    · rintro ⟨⟨digits, hcs, hne, hdigits, hn⟩, hle⟩
      rcases hcs with rfl | hcs
      · -- a plus sign is no digit
        exact absurd (hdigits '+' List.mem_cons_self) (by decide)
      · obtain rfl := (List.cons.inj hcs).2
        exact ⟨hne, hdigits, hn, hle⟩
  · rw [unsigned?_plain limit fun r hr => hplus ⟨r, hr⟩, ite_isDigits_eq_some_iff]
    constructor
    · rintro ⟨hne, hdigits, hn, hle⟩
      exact ⟨⟨cs, .inl rfl, hne, hdigits, hn⟩, hle⟩
    · rintro ⟨⟨digits, hcs, hne, hdigits, hn⟩, hle⟩
      rcases hcs with rfl | hcs
      · exact ⟨hne, hdigits, hn, hle⟩
      · exact absurd ⟨digits, hcs⟩ hplus

theorem isDigit_iff {c : Char} : c.isDigit = true ↔ 48 ≤ c.toNat ∧ c.toNat ≤ 57 := by
  unfold Char.isDigit
  simp only [Bool.and_eq_true, decide_eq_true_eq, ge_iff_le, UInt32.le_iff_toNat_le]
  rfl

/-- The characters of a number can be seen. -/
theorem Denotes.mem_bounds {cs : List Char} {n : Nat} (h : Denotes cs n) {c : Char}
    (hc : c ∈ cs) : 43 ≤ c.toNat ∧ c.toNat ≤ 57 := by
  obtain ⟨digits, hcs, -, hdigits, -⟩ := h
  have hdigit : ∀ d ∈ digits, 43 ≤ d.toNat ∧ d.toNat ≤ 57 := by
    intro d hd
    have hbounds := isDigit_iff.mp (hdigits d hd)
    omega
  rcases hcs with rfl | rfl
  · exact hdigit c hc
  · rcases List.mem_cons.mp hc with rfl | hc
    · decide
    · exact hdigit c hc

theorem Denotes.ne_nil {cs : List Char} {n : Nat} (h : Denotes cs n) : cs ≠ [] := by
  obtain ⟨digits, rfl | rfl, hdigits, -⟩ := h
  · exact hdigits
  · exact List.cons_ne_nil _ _

theorem Denotes.not_isBlank {cs : List Char} {n : Nat} (h : Denotes cs n) :
    ∀ c ∈ cs, Text.isBlank c = false := by
  intro c hc
  have hbounds := h.mem_bounds hc
  simp [Text.isBlank]
  omega

theorem Denotes.ascii {cs : List Char} {n : Nat} (h : Denotes cs n) :
    ∀ c ∈ cs, c.toNat < 0x80 := by
  intro c hc
  have hbounds := h.mem_bounds hc
  omega

end Ascii

namespace Utf8

/-! ## ASCII bytes -/

theorem piece_of_ascii {b : UInt8} (h : b.toNat < 0x80) (rest : List UInt8) :
    piece b rest = .scalar (Char.ofNat b.toNat) 1 := by
  unfold piece
  simp only [if_pos h]

theorem pieces_of_ascii {bytes : List UInt8} (h : ∀ b ∈ bytes, b.toNat < 0x80) :
    pieces bytes = bytes.map fun b => .scalar (Char.ofNat b.toNat) 1 := by
  induction bytes with
  | nil => rfl
  | cons b rest ih =>
    have hrest := ih fun c hc => h c (List.mem_cons_of_mem _ hc)
    unfold pieces at hrest ⊢
    simp only [scan, piece_of_ascii (h b List.mem_cons_self)]
    rw [scan_acc, Piece.width, hrest]
    rfl

theorem decode?_of_ascii {bytes : List UInt8} (h : ∀ b ∈ bytes, b.toNat < 0x80) :
    decode? bytes = some (String.ofList (bytes.map fun b => Char.ofNat b.toNat)) := by
  have hscalars : (bytes.map fun b => Piece.scalar (Char.ofNat b.toNat) 1).mapM Piece.scalar? =
      some (bytes.map fun b => Char.ofNat b.toNat) := by
    rw [List.mapM_map]
    exact List.mapM_pure
  unfold decode?
  rw [pieces_of_ascii h, hscalars]
  rfl

theorem encode_of_ascii {text : String} (h : ∀ c ∈ text.toList, c.toNat < 0x80) :
    encode text = text.toList.map fun c => UInt8.ofNat c.toNat := by
  have hchar : ∀ c ∈ text.toList, encodeChar c = [UInt8.ofNat c.toNat] :=
    fun c hc => encodeChar_of_lt (h c hc)
  unfold encode List.flatMap
  rw [List.map_congr_left hchar, ← List.flatMap_def, ← List.map_eq_flatMap]

theorem toNat_ofNat_of_lt {n : Nat} (h : n < 0x80) : (Char.ofNat n).toNat = n := by
  have hvalid : n.isValidChar := .inl (by omega)
  unfold Char.ofNat
  rw [dif_pos hvalid]
  rfl

/-- ASCII bytes that were decoded are what the text is encoded as. -/
theorem encode_of_decode?_ascii {bytes : List UInt8} {text : String}
    (h : ∀ b ∈ bytes, b.toNat < 0x80) (htext : decode? bytes = some text) :
    encode text = bytes := by
  rw [decode?_of_ascii h] at htext
  obtain rfl := Option.some.inj htext
  have hchars : ∀ c ∈ (String.ofList (bytes.map fun b => Char.ofNat b.toNat)).toList,
      c.toNat < 0x80 := by
    intro c hc
    rw [String.toList_ofList] at hc
    obtain ⟨b, hb, rfl⟩ := List.mem_map.mp hc
    rw [toNat_ofNat_of_lt (h b hb)]
    exact h b hb
  have hback : ∀ b ∈ bytes, UInt8.ofNat (Char.ofNat b.toNat).toNat = b := by
    intro b hb
    rw [toNat_ofNat_of_lt (h b hb), UInt8.ofNat_toNat]
  rw [encode_of_ascii hchars, String.toList_ofList, List.map_map]
  unfold Function.comp
  rw [List.map_congr_left hback, List.map_id']

end Utf8

end Gatehouse
