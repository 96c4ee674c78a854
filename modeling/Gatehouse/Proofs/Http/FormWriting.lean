import Gatehouse.Http.Query
import Gatehouse.Proofs.Lists.Cutting
import Gatehouse.Proofs.Text.Encoding
import Gatehouse.Proofs.Text.Unsigned
import Mathlib.Data.List.Forall2
/-!
The ways to write pairs as a form.

A byte may be written as it is or behind a percent sign, with digits in either case, and a space
also as a plus sign; between the pairs there may be empty pieces. So the same pairs are written in
many ways, and `Writes pairs bytes` says that this is one of them. All of them are read alike:

    Writes pairs bytes  →  Form.pairs bytes = pairs                   (pairs_of_writes)

There is always a way: `text pairs` has letters, digits and `*-._` as they are, so that it can be
the query of any target (`writes_text`, `all_isQueryChar_text`).
-/

namespace Gatehouse.Http.Form

/-! ## Ways to write -/

/-- The ways to write a byte. -/
inductive WritesByte : UInt8 → List UInt8 → Prop
  | plain {b : UInt8} : b ≠ '&'.toUInt8 → b ≠ '+'.toUInt8 → b ≠ '%'.toUInt8 → WritesByte b [b]
  | plus : WritesByte ' '.toUInt8 ['+'.toUInt8]
  | escape {high low : UInt8} {h l : Nat} : Hex.value? high = some h → Hex.value? low = some l →
      WritesByte (UInt8.ofNat (16 * h + l)) ['%'.toUInt8, high, low]

/-- The ways to write bytes, one after the other. -/
inductive WritesBytes : List UInt8 → List UInt8 → Prop
  | nil : WritesBytes [] []
  | cons {b : UInt8} {front bytes rest : List UInt8} : WritesByte b front →
      WritesBytes bytes rest → WritesBytes (b :: bytes) (front ++ rest)

/-- The ways to write a pair. The first equals sign is the one behind the name. -/
def WritesPair (pair : String × String) (piece : List UInt8) : Prop :=
  ∃ name value, WritesBytes (Utf8.encode pair.1) name ∧ WritesBytes (Utf8.encode pair.2) value ∧
    '='.toUInt8 ∉ name ∧ piece = name ++ '='.toUInt8 :: value

/-- The ways to write pairs, with empty pieces anywhere between them. -/
def Writes (pairs : List (String × String)) (bytes : List UInt8) : Prop :=
  ∃ pieces, bytes = ['&'.toUInt8].intercalate pieces ∧
    List.Forall₂ WritesPair pairs (pieces.filter (!·.isEmpty))

/-! ## One of the ways -/

/-- A byte that is written as it is: a letter, a digit, or one of `*-._`. -/
def isPlain (b : UInt8) : Bool :=
  let n := b.toNat
  (0x30 ≤ n && n ≤ 0x39) || (0x41 ≤ n && n ≤ 0x5A) || (0x61 ≤ n && n ≤ 0x7A) ||
  n == 0x2A || n == 0x2D || n == 0x2E || n == 0x5F

/-- The upper-case digit for a number below 16, as a byte. -/
def hexDigit (n : Nat) : UInt8 :=
  (Hex.digit n).toUpper.toUInt8

/-- Writes a byte. -/
def writeByte (b : UInt8) : List UInt8 :=
  if b = ' '.toUInt8 then ['+'.toUInt8]
  else if isPlain b then [b]
  else ['%'.toUInt8, hexDigit (b.toNat / 16), hexDigit (b.toNat % 16)]

/-- Writes a name or a value. -/
def writePart (part : String) : List UInt8 :=
  (Utf8.encode part).flatMap writeByte

/-- Writes a pair. -/
def writePair (pair : String × String) : List UInt8 :=
  writePart pair.1 ++ '='.toUInt8 :: writePart pair.2

/-- Writes pairs. -/
def write (pairs : List (String × String)) : List UInt8 :=
  ['&'.toUInt8].intercalate (pairs.map writePair)

/-- Pairs as the text of a form. -/
def text (pairs : List (String × String)) : String :=
  String.ofList ((write pairs).map fun b => Char.ofNat b.toNat)

/-! ## Reading a part -/

theorem ne_of_value? {b other : UInt8} {n : Nat} (h : Hex.value? b = some n)
    (hother : Hex.value? other = none) : b ≠ other := by
  rintro rfl
  rw [hother] at h
  cases h

theorem plusToSpace_of_ne {b : UInt8} (h : b ≠ '+'.toUInt8) : plusToSpace b = b :=
  if_neg h

theorem percentDecode_cons_of_ne {b : UInt8} (h : b ≠ '%'.toUInt8) (rest : List UInt8) :
    percentDecode (b :: rest) = b :: percentDecode rest := by
  match rest with
  | [] => rfl
  | [_] => rfl
  | _ :: _ :: _ => rw [percentDecode, if_neg h]

theorem percentDecode_escape {high low : UInt8} {h l : Nat} (hhigh : Hex.value? high = some h)
    (hlow : Hex.value? low = some l) (rest : List UInt8) :
    percentDecode ('%'.toUInt8 :: high :: low :: rest) =
      UInt8.ofNat (16 * h + l) :: percentDecode rest := by
  rw [percentDecode, if_pos rfl, hhigh, hlow]

/-- A byte is read back, whatever stands behind it. -/
theorem WritesByte.decode {b : UInt8} {front : List UInt8} (hb : WritesByte b front)
    (rest : List UInt8) :
    percentDecode (front.map plusToSpace ++ rest) = b :: percentDecode rest := by
  cases hb with
  | plain hamp hplus hpercent =>
    rw [List.map_singleton, plusToSpace_of_ne hplus]
    exact percentDecode_cons_of_ne hpercent rest
  | plus => exact percentDecode_cons_of_ne (by decide) rest
  | @escape high low h l hhigh hlow =>
    -- no digit is a plus sign, so the escape is left as it is
    have hsign : plusToSpace '%'.toUInt8 = '%'.toUInt8 := plusToSpace_of_ne (by decide)
    have hhigh' : plusToSpace high = high := plusToSpace_of_ne (ne_of_value? hhigh (by decide))
    have hlow' : plusToSpace low = low := plusToSpace_of_ne (ne_of_value? hlow (by decide))
    simp only [List.map_cons, List.map_nil, hsign, hhigh', hlow', List.cons_append,
      List.nil_append]
    exact percentDecode_escape hhigh hlow rest

theorem WritesBytes.decode {bytes written : List UInt8} (h : WritesBytes bytes written) :
    percentDecode (written.map plusToSpace) = bytes := by
  induction h with
  | nil => rfl
  | cons hb _ ih => rw [List.map_append, hb.decode, ih]

/-- A text is read back from its bytes. -/
theorem decodePart_of_writes {part : String} {written : List UInt8}
    (h : WritesBytes (Utf8.encode part) written) : decodePart written = part := by
  unfold decodePart
  rw [h.decode, Utf8.decodeLossy_encode]

/-! ## Reading pairs -/

theorem WritesByte.amp_notMem {b : UInt8} {front : List UInt8} (h : WritesByte b front) :
    '&'.toUInt8 ∉ front := by
  cases h with
  | plain hamp hplus hpercent => exact fun hmem => hamp (List.mem_singleton.mp hmem).symm
  | plus => decide
  | @escape high low h l hhigh hlow =>
    have hhigh' : high ≠ '&'.toUInt8 := ne_of_value? hhigh (by decide)
    have hlow' : low ≠ '&'.toUInt8 := ne_of_value? hlow (by decide)
    simp only [List.mem_cons, List.not_mem_nil, or_false, not_or]
    exact ⟨by decide, hhigh'.symm, hlow'.symm⟩

theorem WritesBytes.amp_notMem {bytes written : List UInt8} (h : WritesBytes bytes written) :
    '&'.toUInt8 ∉ written := by
  induction h with
  | nil => exact List.not_mem_nil
  | cons hb _ ih =>
    rw [List.mem_append, not_or]
    exact ⟨hb.amp_notMem, ih⟩

theorem WritesPair.amp_notMem {pair : String × String} {piece : List UInt8}
    (h : WritesPair pair piece) : '&'.toUInt8 ∉ piece := by
  obtain ⟨name, value, hname, hvalue, -, rfl⟩ := h
  rw [List.mem_append, List.mem_cons, not_or, not_or]
  exact ⟨hname.amp_notMem, by decide, hvalue.amp_notMem⟩

/-- A pair is cut behind its name. -/
theorem WritesPair.decode {pair : String × String} {piece : List UInt8}
    (h : WritesPair pair piece) : decodePair piece = pair := by
  obtain ⟨name, value, hname, hvalue, hequals, rfl⟩ := h
  unfold decodePair
  rw [takeWhile_separator hequals, dropWhile_separator hequals, List.drop_one, List.tail_cons,
    decodePart_of_writes hname, decodePart_of_writes hvalue]

theorem amp_notMem_of_forall₂ {ps : List (String × String)} {pieces : List (List UInt8)}
    (h : List.Forall₂ WritesPair ps pieces) : ∀ p ∈ pieces, '&'.toUInt8 ∉ p := by
  induction h with
  | nil => exact fun _ hp => absurd hp List.not_mem_nil
  | cons hpair _ ih =>
    intro p hp
    rcases List.mem_cons.mp hp with rfl | hp
    · exact hpair.amp_notMem
    · exact ih p hp

theorem map_decodePair {ps : List (String × String)} {pieces : List (List UInt8)}
    (h : List.Forall₂ WritesPair ps pieces) : pieces.map decodePair = ps := by
  induction h with
  | nil => rfl
  | cons hpair _ ih => rw [List.map_cons, hpair.decode, ih]

/-- Pairs are read back, however they were written. -/
theorem pairs_of_writes {ps : List (String × String)} {bytes : List UInt8}
    (h : Writes ps bytes) : pairs bytes = ps := by
  obtain ⟨pieces, rfl, hpairs⟩ := h
  -- the pieces between pairs are empty, so they have no separator either
  have hamp : ∀ p ∈ pieces, '&'.toUInt8 ∉ p := by
    intro p hp
    by_cases hempty : p = []
    · rw [hempty]
      exact List.not_mem_nil
    · exact amp_notMem_of_forall₂ hpairs p (List.mem_filter.mpr ⟨hp, by simpa using hempty⟩)
  unfold pairs
  rw [filter_splitOn_intercalate hamp, map_decodePair hpairs]

/-- The query of a target has the named values of the pairs, however they were written. -/
theorem ofUri_of_writes {ps : List (String × String)} {uri : Uri}
    (h : Writes ps (Utf8.encode (uri.query.getD ""))) : Query.ofUri uri = Query.ofPairs ps := by
  unfold Query.ofUri
  rw [pairs_of_writes h]

/-! ## There is a way -/

/-- Without `&`, `+` and percent signs, bytes are written by themselves. -/
theorem writesBytes_self {bytes : List UInt8} (hamp : '&'.toUInt8 ∉ bytes)
    (hplus : '+'.toUInt8 ∉ bytes) (hpercent : '%'.toUInt8 ∉ bytes) : WritesBytes bytes bytes := by
  induction bytes with
  | nil => exact .nil
  | cons b bytes ih =>
    rw [List.mem_cons, not_or] at hamp hplus hpercent
    exact .cons (.plain (Ne.symm hamp.1) (Ne.symm hplus.1) (Ne.symm hpercent.1))
      (ih hamp.2 hplus.2 hpercent.2)

theorem value?_hexDigit : ∀ n, n < 16 → Hex.value? (hexDigit n) = some n := by
  decide

theorem writes_writeByte (b : UInt8) : WritesByte b (writeByte b) := by
  unfold writeByte
  split
  · next hspace =>
    rw [hspace]
    exact .plus
  · split
    · next hplain =>
      refine .plain ?_ ?_ ?_ <;>
      · rintro rfl
        exact absurd hplain (by decide)
    · have hlt := b.toNat_lt
      have hback : UInt8.ofNat (16 * (b.toNat / 16) + b.toNat % 16) = b := by
        rw [Nat.div_add_mod, UInt8.ofNat_toNat]
      have hescape := WritesByte.escape (value?_hexDigit (b.toNat / 16) (by omega))
        (value?_hexDigit (b.toNat % 16) (by omega))
      rwa [hback] at hescape

theorem writes_writePart (part : String) : WritesBytes (Utf8.encode part) (writePart part) := by
  unfold writePart
  induction Utf8.encode part with
  | nil => exact .nil
  | cons b bytes ih => exact .cons (writes_writeByte b) ih

/-- A byte that a query may have as a character of its own. -/
def IsQueryByte (b : UInt8) : Prop :=
  b.toNat < 0x80 ∧ Uri.isQueryChar (Char.ofNat b.toNat) = true

instance (b : UInt8) : Decidable (IsQueryByte b) :=
  inferInstanceAs (Decidable (_ ∧ _))

theorem isQueryByte_of_isPlain {b : UInt8} (h : isPlain b = true) :
    IsQueryByte b ∧ b ≠ '='.toUInt8 := by
  unfold isPlain at h
  simp only [Bool.or_eq_true, Bool.and_eq_true, decide_eq_true_eq, beq_iff_eq] at h
  have hascii : b.toNat < 0x80 := by omega
  refine ⟨⟨hascii, ?_⟩, ?_⟩
  · unfold Uri.isQueryChar
    simp only [Utf8.toNat_ofNat_of_lt hascii, Bool.or_eq_true, Bool.and_eq_true,
      decide_eq_true_eq, beq_iff_eq]
    omega
  · intro heq
    have hn : b.toNat = 0x3D := congrArg UInt8.toNat heq
    omega

theorem isQueryByte_hexDigit : ∀ n, n < 16 →
    IsQueryByte (hexDigit n) ∧ hexDigit n ≠ '='.toUInt8 := by
  decide

/-- A byte is written with bytes of a query, and without an equals sign. -/
theorem mem_writeByte {b c : UInt8} (h : c ∈ writeByte b) :
    IsQueryByte c ∧ c ≠ '='.toUInt8 := by
  have hlt := b.toNat_lt
  unfold writeByte at h
  split at h
  · obtain rfl := List.mem_singleton.mp h
    decide
  · split at h
    · next hplain =>
      obtain rfl := List.mem_singleton.mp h
      exact isQueryByte_of_isPlain hplain
    · simp only [List.mem_cons, List.not_mem_nil, or_false] at h
      rcases h with rfl | rfl | rfl
      · decide
      · exact isQueryByte_hexDigit _ (by omega)
      · exact isQueryByte_hexDigit _ (by omega)

theorem mem_writePart {part : String} {c : UInt8} (h : c ∈ writePart part) :
    IsQueryByte c ∧ c ≠ '='.toUInt8 := by
  obtain ⟨b, -, hb⟩ := List.mem_flatMap.mp h
  exact mem_writeByte hb

theorem writes_writePair (pair : String × String) : WritesPair pair (writePair pair) := by
  have hequals : '='.toUInt8 ∉ writePart pair.1 := fun h => (mem_writePart h).2 rfl
  exact ⟨_, _, writes_writePart pair.1, writes_writePart pair.2, hequals, rfl⟩

/-- Pairs can be written. -/
theorem writes_write (pairs : List (String × String)) : Writes pairs (write pairs) := by
  refine ⟨pairs.map writePair, rfl, ?_⟩
  have hall : (pairs.map writePair).filter (!·.isEmpty) = pairs.map writePair := by
    rw [List.filter_eq_self]
    intro piece hpiece
    obtain ⟨pair, -, rfl⟩ := List.mem_map.mp hpiece
    unfold writePair
    simp
  rw [hall, List.forall₂_map_right_iff]
  exact List.forall₂_same.mpr fun pair _ => writes_writePair pair

/-! ## The text of a form -/

theorem isQueryByte_writePair {pair : String × String} {c : UInt8} (h : c ∈ writePair pair) :
    IsQueryByte c := by
  rcases List.mem_append.mp h with hname | hrest
  · exact (mem_writePart hname).1
  · rcases List.mem_cons.mp hrest with rfl | hvalue
    · decide
    · exact (mem_writePart hvalue).1

theorem isQueryByte_write (ps : List (String × String)) : ∀ c ∈ write ps, IsQueryByte c := by
  unfold write
  induction ps with
  | nil => exact fun _ hc => absurd hc List.not_mem_nil
  | cons pair rest ih =>
    cases rest with
    | nil =>
      rw [List.map_singleton, List.intercalate_singleton]
      exact fun _ hc => isQueryByte_writePair hc
    | cons next rest =>
      intro c hc
      rw [List.map_cons, List.map_cons, List.intercalate_cons_cons, List.append_assoc,
        List.mem_append, List.mem_append, List.mem_singleton] at hc
      rcases hc with hpair | rfl | hrest
      · exact isQueryByte_writePair hpair
      · decide
      · exact ih c hrest

theorem encode_text (ps : List (String × String)) : Utf8.encode (text ps) = write ps := by
  have hascii : ∀ b ∈ write ps, b.toNat < 0x80 := fun b hb => (isQueryByte_write ps b hb).1
  exact Utf8.encode_of_decode?_ascii hascii (Utf8.decode?_of_ascii hascii)

/-- Pairs can be written as a text. -/
theorem writes_text (ps : List (String × String)) : Writes ps (Utf8.encode (text ps)) := by
  rw [encode_text]
  exact writes_write ps

/-- The text of pairs can be the query of a target. -/
theorem all_isQueryChar_text (ps : List (String × String)) :
    (text ps).toList.all Uri.isQueryChar = true := by
  unfold text
  rw [String.toList_ofList, List.all_map, List.all_eq_true]
  exact fun b hb => (isQueryByte_write ps b hb).2

example : text [("tag", "a b"), ("q", "1+1=2 & é")] = "tag=a+b&q=1%2B1%3D2+%26+%C3%A9" := by
  decide

end Gatehouse.Http.Form
