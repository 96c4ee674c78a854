import Gatehouse.Text.Utf8
/-!
UTF-8 keeps texts, and the order of texts.

What a text is encoded as is cut into one piece for each character, so decoding gives the text
back; and texts are ordered as their bytes are.

    decodeLossy (encode s) = s                  (decodeLossy_encode)
    s < t  →  encode s < encode t               (encode_lt_encode)

A character has one of four forms, of one to four bytes (`encodeChar_cases`); what is proved of a
character goes through the forms.
-/

namespace Gatehouse.Utf8

/-! ## Bytes -/

theorem toNat_ofNat {n : Nat} (h : n < 256) : (UInt8.ofNat n).toNat = n := by
  rw [UInt8.toNat_ofNat']
  omega

theorem ofNat_lt_ofNat {m n : Nat} (hn : n < 256) (h : m < n) : UInt8.ofNat m < UInt8.ofNat n := by
  rw [UInt8.lt_iff_toNat_lt, toNat_ofNat hn, toNat_ofNat (by omega)]
  exact h

theorem isTail_ofNat {k : Nat} (h : k < 64) : isTail (UInt8.ofNat (0x80 + k)) = true := by
  unfold isTail
  rw [toNat_ofNat (by omega), Bool.and_eq_true, decide_eq_true_eq, decide_eq_true_eq]
  omega

theorem tailBits_ofNat {k : Nat} (h : k < 64) : tailBits (UInt8.ofNat (0x80 + k)) = k := by
  unfold tailBits
  rw [toNat_ofNat (by omega)]
  omega

/-! ## The four forms of a character -/

/-- The number of a character is no surrogate. -/
theorem toNat_bounds (c : Char) :
    c.toNat < 0xD800 ∨ 0xDFFF < c.toNat ∧ c.toNat < 0x110000 :=
  c.valid

/-- A character takes one, two, three or four bytes, by its number. -/
theorem encodeChar_cases (c : Char) :
    (c.toNat < 0x80 ∧ encodeChar c = [UInt8.ofNat c.toNat]) ∨
    (0x80 ≤ c.toNat ∧ c.toNat < 0x800 ∧ encodeChar c =
      [UInt8.ofNat (0xC0 + c.toNat / 64), UInt8.ofNat (0x80 + c.toNat % 64)]) ∨
    (0x800 ≤ c.toNat ∧ c.toNat < 0x10000 ∧ encodeChar c =
      [UInt8.ofNat (0xE0 + c.toNat / 4096), UInt8.ofNat (0x80 + c.toNat / 64 % 64),
        UInt8.ofNat (0x80 + c.toNat % 64)]) ∨
    (0x10000 ≤ c.toNat ∧ encodeChar c =
      [UInt8.ofNat (0xF0 + c.toNat / 262144), UInt8.ofNat (0x80 + c.toNat / 4096 % 64),
        UInt8.ofNat (0x80 + c.toNat / 64 % 64), UInt8.ofNat (0x80 + c.toNat % 64)]) := by
  unfold encodeChar
  by_cases h₁ : c.toNat < 0x80
  · exact .inl ⟨h₁, by simp only [if_pos h₁]⟩
  by_cases h₂ : c.toNat < 0x800
  · exact .inr (.inl ⟨by omega, h₂, by simp only [if_neg h₁, if_pos h₂]⟩)
  by_cases h₃ : c.toNat < 0x10000
  · exact .inr (.inr (.inl ⟨by omega, h₃, by simp only [if_neg h₁, if_neg h₂, if_pos h₃]⟩))
  · exact .inr (.inr (.inr ⟨by omega, by simp only [if_neg h₁, if_neg h₂, if_neg h₃]⟩))

theorem encodeChar_of_lt {c : Char} (h : c.toNat < 0x80) : encodeChar c = [UInt8.ofNat c.toNat] := by
  unfold encodeChar
  simp only [if_pos h]

/-- The bytes of a character are its number, or they are all 80 and above. -/
theorem mem_encodeChar {c : Char} {b : UInt8} (hb : b ∈ encodeChar c) :
    b.toNat = c.toNat ∧ c.toNat < 0x80 ∨ 0x80 ≤ b.toNat ∧ 0x80 ≤ c.toNat := by
  have hvalid := toNat_bounds c
  rcases encodeChar_cases c with ⟨h, he⟩ | ⟨h, h', he⟩ | ⟨h, h', he⟩ | ⟨h, he⟩ <;>
    simp only [he, List.mem_cons, List.not_mem_nil, or_false] at hb
  · rw [hb, toNat_ofNat (by omega)]
    exact .inl ⟨rfl, h⟩
  all_goals
    right
    rcases hb with rfl | rfl | rfl | rfl <;> rw [toNat_ofNat (by omega)] <;> omega

/-! ## Reading one character back -/

/-- The second byte of three is in the range that goes with the first. -/
theorem isSecond_three {c : Char} (h : 0x800 ≤ c.toNat) (h' : c.toNat < 0x10000) :
    isSecond (0xE0 + c.toNat / 4096) (UInt8.ofNat (0x80 + c.toNat / 64 % 64)) = true := by
  have hvalid := toNat_bounds c
  unfold isSecond
  rw [isTail_ofNat (by omega), toNat_ofNat (by omega)]
  simp only [Bool.true_and, beq_iff_eq]
  split
  · rw [decide_eq_true_eq]
    omega
  · split
    · -- no character is a surrogate
      rw [decide_eq_true_eq]
      omega
    · rw [if_neg (by omega), if_neg (by omega)]

/-- The second byte of four is in the range that goes with the first. -/
theorem isSecond_four {c : Char} (h : 0x10000 ≤ c.toNat) :
    isSecond (0xF0 + c.toNat / 262144) (UInt8.ofNat (0x80 + c.toNat / 4096 % 64)) = true := by
  have hvalid := toNat_bounds c
  unfold isSecond
  rw [isTail_ofNat (by omega), toNat_ofNat (by omega)]
  simp only [Bool.true_and, beq_iff_eq]
  rw [if_neg (by omega), if_neg (by omega)]
  split
  · rw [decide_eq_true_eq]
    omega
  · split
    · rw [decide_eq_true_eq]
      omega
    · rfl

/-- The bytes of a character are one piece, whatever follows them. -/
theorem exists_encodeChar (c : Char) :
    ∃ b rest, encodeChar c = b :: rest ∧
      ∀ tail, piece b (rest ++ tail) = .scalar c (rest.length + 1) := by
  have hvalid := toNat_bounds c
  have htail : c.toNat % 64 < 64 := by omega
  have hmid : c.toNat / 64 % 64 < 64 := by omega
  have hhigh : c.toNat / 4096 % 64 < 64 := by omega
  rcases encodeChar_cases c with ⟨h, hencode⟩ | ⟨h, h', hencode⟩ | ⟨h, h', hencode⟩ | ⟨h, hencode⟩
  · refine ⟨_, _, hencode, fun tail => ?_⟩
    have hlead : (UInt8.ofNat c.toNat).toNat = c.toNat := toNat_ofNat (by omega)
    unfold piece
    simp only [hlead, if_pos h, Char.ofNat_toNat, List.length_nil]
  · refine ⟨_, _, hencode, fun tail => ?_⟩
    have hlead : (UInt8.ofNat (0xC0 + c.toNat / 64)).toNat = 0xC0 + c.toNat / 64 :=
      toNat_ofNat (by omega)
    have hback : (0xC0 + c.toNat / 64 - 0xC0) * 64 + c.toNat % 64 = c.toNat := by omega
    unfold piece
    simp only [hlead, List.cons_append, List.nil_append, isTail_ofNat htail, tailBits_ofNat htail,
      hback, Char.ofNat_toNat, if_true, Bool.and_eq_true, decide_eq_true_eq]
    rw [if_neg (by omega), if_pos (by omega)]
    rfl
  · refine ⟨_, _, hencode, fun tail => ?_⟩
    have hlead : (UInt8.ofNat (0xE0 + c.toNat / 4096)).toNat = 0xE0 + c.toNat / 4096 :=
      toNat_ofNat (by omega)
    have hback : (0xE0 + c.toNat / 4096 - 0xE0) * 4096 + c.toNat / 64 % 64 * 64 + c.toNat % 64 =
        c.toNat := by omega
    unfold piece
    simp only [hlead, List.cons_append, List.nil_append, isSecond_three h h', isTail_ofNat htail,
      tailBits_ofNat hmid, tailBits_ofNat htail, hback, Char.ofNat_toNat, if_true,
      Bool.and_eq_true, decide_eq_true_eq]
    rw [if_neg (by omega), if_neg (by omega), if_pos (by omega)]
    rfl
  · refine ⟨_, _, hencode, fun tail => ?_⟩
    have hlead : (UInt8.ofNat (0xF0 + c.toNat / 262144)).toNat = 0xF0 + c.toNat / 262144 :=
      toNat_ofNat (by omega)
    have hback : (0xF0 + c.toNat / 262144 - 0xF0) * 262144 + c.toNat / 4096 % 64 * 4096 +
        c.toNat / 64 % 64 * 64 + c.toNat % 64 = c.toNat := by omega
    unfold piece
    simp only [hlead, List.cons_append, List.nil_append, isSecond_four h, isTail_ofNat hmid,
      isTail_ofNat htail, tailBits_ofNat hhigh, tailBits_ofNat hmid, tailBits_ofNat htail, hback,
      Char.ofNat_toNat, if_true, Bool.and_eq_true, decide_eq_true_eq]
    rw [if_neg (by omega), if_neg (by omega), if_neg (by omega), if_pos (by omega)]
    rfl

theorem encodeChar_ne_nil (c : Char) : encodeChar c ≠ [] := by
  obtain ⟨b, rest, hencode, -⟩ := exists_encodeChar c
  rw [hencode]
  exact List.cons_ne_nil _ _

/-! ## Reading a text back -/

/-- The first bytes belong to the last piece. -/
theorem scan_skip (acc : List Piece) (front bytes : List UInt8) :
    scan acc front.length (front ++ bytes) = scan acc 0 bytes := by
  induction front with
  | nil => rfl
  | cons b front ih =>
    show scan acc (front.length + 1) (b :: (front ++ bytes)) = _
    rw [scan, ih]

theorem pieces_encodeChar_append (c : Char) (bytes : List UInt8) :
    pieces (encodeChar c ++ bytes) = .scalar c (encodeChar c).length :: pieces bytes := by
  obtain ⟨b, rest, hencode, hpiece⟩ := exists_encodeChar c
  unfold pieces
  rw [hencode, List.cons_append, scan, hpiece, List.length_cons]
  show scan _ rest.length (rest ++ bytes) = _
  rw [scan_skip, scan_acc]
  rfl

/-- A text has one piece for each character. -/
theorem pieces_encode (s : String) :
    pieces (encode s) = s.toList.map fun c => .scalar c (encodeChar c).length := by
  unfold encode
  induction s.toList with
  | nil => rfl
  | cons c cs ih => rw [List.flatMap_cons, pieces_encodeChar_append, ih, List.map_cons]

/-- Decoding gives a text back. -/
theorem decodeLossy_encode (s : String) : decodeLossy (encode s) = s := by
  unfold decodeLossy
  rw [pieces_encode, List.map_map]
  show String.ofList (s.toList.map fun c => c) = s
  rw [List.map_id', String.ofList_toList]

theorem decode?_encode (s : String) : decode? (encode s) = some s := by
  have hscalars : ∀ cs : List Char,
      (cs.map fun c => Piece.scalar c (encodeChar c).length).mapM Piece.scalar? = some cs := by
    intro cs
    rw [List.mapM_map]
    exact List.mapM_pure.trans (congrArg some (List.map_id cs))
  unfold decode?
  rw [pieces_encode, hscalars, Option.map_some, String.ofList_toList]

/-- No bytes but none have no pieces. -/
theorem pieces_eq_nil_iff {bytes : List UInt8} : pieces bytes = [] ↔ bytes = [] := by
  cases bytes with
  | nil => simp [pieces, scan]
  | cons b rest =>
    unfold pieces
    rw [scan, scan_acc]
    simp

/-- Broken bytes are shown, so nothing but no bytes is decoded to the empty text. -/
theorem decodeLossy_eq_empty_iff {bytes : List UInt8} : decodeLossy bytes = "" ↔ bytes = [] := by
  unfold decodeLossy
  rw [String.ofList_eq_empty_iff, List.map_eq_nil_iff, pieces_eq_nil_iff]

theorem decode?_eq_some_empty_iff {bytes : List UInt8} :
    decode? bytes = some "" ↔ bytes = [] := by
  unfold decode?
  constructor
  · intro h
    obtain ⟨cs, hcs, hempty⟩ := Option.map_eq_some_iff.mp h
    rw [String.ofList_eq_empty_iff.mp hempty] at hcs
    cases hpieces : pieces bytes with
    | nil => exact pieces_eq_nil_iff.mp hpieces
    | cons p rest =>
      rw [hpieces, List.mapM_cons] at hcs
      obtain ⟨c, -, hcs⟩ := Option.bind_eq_some_iff.mp hcs
      obtain ⟨cs', -, hcs⟩ := Option.bind_eq_some_iff.mp hcs
      cases hcs
  · rintro rfl
    rfl

/-- Different texts have different bytes. -/
theorem encode_inj {s t : String} : encode s = encode t ↔ s = t := by
  constructor
  · intro h
    rw [← decodeLossy_encode s, h, decodeLossy_encode]
  · rintro rfl
    rfl

/-! ## Order -/

theorem cons_ofNat_lt_cons {m n : Nat} {s t : List UInt8} (hn : n < 256) (hle : m ≤ n)
    (ht : m = n → s < t) : UInt8.ofNat m :: s < UInt8.ofNat n :: t := by
  rw [List.cons_lt_cons_iff]
  rcases Nat.lt_or_eq_of_le hle with hlt | heq
  · exact .inl (ofNat_lt_ofNat hn hlt)
  · exact .inr ⟨by rw [heq], ht heq⟩

/-- The bytes of a smaller character are smaller, whatever follows them. -/
theorem encodeChar_append_lt {c d : Char} (h : c < d) (s t : List UInt8) :
    encodeChar c ++ s < encodeChar d ++ t := by
  have hlt : c.toNat < d.toNat := UInt32.lt_iff_toNat_lt.mp h
  have hvalid := toNat_bounds d
  rcases encodeChar_cases c with ⟨hc, ec⟩ | ⟨hc, hc', ec⟩ | ⟨hc, hc', ec⟩ | ⟨hc, ec⟩ <;>
  rcases encodeChar_cases d with ⟨hd, ed⟩ | ⟨hd, hd', ed⟩ | ⟨hd, hd', ed⟩ | ⟨hd, ed⟩ <;>
  rw [ec, ed] <;>
  refine cons_ofNat_lt_cons (by omega) (by omega) fun h₁ => ?_
  -- the first byte tells the form, so what is left has two characters of one form
  any_goals omega
  · exact cons_ofNat_lt_cons (by omega) (by omega) fun h₂ => by omega
  · refine cons_ofNat_lt_cons (by omega) (by omega) fun h₂ => ?_
    exact cons_ofNat_lt_cons (by omega) (by omega) fun h₃ => by omega
  · refine cons_ofNat_lt_cons (by omega) (by omega) fun h₂ => ?_
    refine cons_ofNat_lt_cons (by omega) (by omega) fun h₃ => ?_
    exact cons_ofNat_lt_cons (by omega) (by omega) fun h₄ => by omega

/-- Texts are ordered as their bytes are. -/
theorem encode_lt_encode {s t : String} (h : s < t) : encode s < encode t := by
  rw [String.lt_iff] at h
  unfold encode
  generalize s.toList = cs at h ⊢
  generalize t.toList = ds at h ⊢
  induction cs generalizing ds with
  | nil =>
    cases ds with
    | nil => exact absurd h (List.lt_irrefl _)
    | cons d ds =>
      obtain ⟨b, rest, hencode, -⟩ := exists_encodeChar d
      rw [List.flatMap_cons, hencode]
      exact List.nil_lt_cons _ _
  | cons c cs ih =>
    cases ds with
    | nil => exact absurd h (List.not_lt_nil _)
    | cons d ds =>
      rw [List.flatMap_cons, List.flatMap_cons]
      rcases List.cons_lt_cons_iff.mp h with hlt | ⟨rfl, hrest⟩
      · exact encodeChar_append_lt hlt _ _
      · exact List.append_left_lt (ih ds hrest)

end Gatehouse.Utf8
