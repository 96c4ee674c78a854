import Gatehouse.Proofs.Binary64.WholeNumbers
import Gatehouse.Proofs.Json.NoContent
import Gatehouse.Schema.Basic
/-!
Integers that are written in JSON.

A numeral without a fraction and an exponent is an integer, however long it is. The reader keeps it
as a whole number if it fits 64 bits. Else it keeps the digits that do, rounds them, and multiplies
by a power of ten that is rounded too. None of this makes a fraction of it (`one_dvd_stretch`), so
every integer that is read is an integer still:

    -2^63 ≤ value ≤ 2^64 - 1, and not `-0`    kept as it is, of type `integer`
    else                                      rounded to a whole number, of type `number`,
                                              or refused as out of range      (integer_of_literal)

A minus sign before a zero is kept too, and only binary64 has such a zero, so `-0` is on the second
line. Literals of up to 307 digits are never out of range.
-/

namespace Gatehouse.Json

/-! ## Digits -/

/-- The number that digits denote, from a number that stands in front of them. -/
def decimalFrom (n : Nat) (digits : List UInt8) : Nat :=
  digits.foldl (fun n d => 10 * n + digitValue d) n

theorem isDigit_iff {b : UInt8} : isDigit b = true ↔ 0x30 ≤ b.toNat ∧ b.toNat ≤ 0x39 := by
  unfold isDigit
  rw [Bool.and_eq_true, decide_eq_true_eq, decide_eq_true_eq]

theorem digitValue_le {b : UInt8} (h : isDigit b = true) : digitValue b ≤ 9 := by
  have hbounds := isDigit_iff.mp h
  unfold digitValue
  omega

theorem decimalFrom_cons (n : Nat) (d : UInt8) (ds : List UInt8) :
    decimalFrom n (d :: ds) = decimalFrom (10 * n + digitValue d) ds :=
  List.foldl_cons ..

/-- Each digit makes a number ten times as large at least. -/
theorem mul_pow_le_decimalFrom (n : Nat) (ds : List UInt8) :
    n * 10 ^ ds.length ≤ decimalFrom n ds := by
  induction ds generalizing n with
  | nil => simp [decimalFrom]
  | cons d ds ih =>
    calc n * 10 ^ (d :: ds).length = 10 * n * 10 ^ ds.length := by
          rw [List.length_cons, Nat.pow_succ]
          ring
      _ ≤ (10 * n + digitValue d) * 10 ^ ds.length :=
          Nat.mul_le_mul_right _ (Nat.le_add_right _ _)
      _ ≤ decimalFrom n (d :: ds) := ih _

theorem le_decimalFrom (n : Nat) (ds : List UInt8) : n ≤ decimalFrom n ds :=
  (Nat.le_mul_of_pos_right n (Nat.pow_pos (by decide))).trans (mul_pow_le_decimalFrom n ds)

/-- Each digit makes a number less than ten times the next number. -/
theorem decimalFrom_lt (n : Nat) {ds : List UInt8} (hds : ∀ d ∈ ds, isDigit d = true) :
    decimalFrom n ds < (n + 1) * 10 ^ ds.length := by
  induction ds generalizing n with
  | nil => simp [decimalFrom]
  | cons d ds ih =>
    have hdigit := digitValue_le (hds d List.mem_cons_self)
    calc decimalFrom n (d :: ds) < (10 * n + digitValue d + 1) * 10 ^ ds.length :=
          ih _ fun b hb => hds b (List.mem_cons_of_mem _ hb)
      _ ≤ (n + 1) * 10 * 10 ^ ds.length := Nat.mul_le_mul_right _ (by omega)
      _ = (n + 1) * 10 ^ (d :: ds).length := by
          rw [List.length_cons, Nat.pow_succ]
          ring

/-- All digits are appended if the number stays within the limit. -/
theorem absorb_of_le {limit n : Nat} {ds : List UInt8} (h : decimalFrom n ds ≤ limit) :
    absorb limit n ds = (decimalFrom n ds, 0) := by
  induction ds generalizing n with
  | nil => rfl
  | cons d ds ih =>
    rw [decimalFrom_cons] at h ⊢
    rw [absorb, if_pos ((le_decimalFrom _ ds).trans h), ih h]

/-- Else some digits are left, and what they are left from is not zero. -/
theorem absorb_of_lt {limit n : Nat} {ds : List UInt8} (hdigits : ∀ d ∈ ds, isDigit d = true)
    (hlimit : 9 ≤ limit) (hn : n ≤ limit) (h : limit < decimalFrom n ds) :
    ∃ m dropped, absorb limit n ds = (m, dropped + 1) ∧ m ≠ 0 ∧
      m * 10 ^ (dropped + 1) ≤ decimalFrom n ds := by
  induction ds generalizing n with
  | nil => exact absurd h (Nat.not_lt.mpr hn)
  | cons d ds ih =>
    rw [absorb]
    by_cases hfits : 10 * n + digitValue d ≤ limit
    · rw [if_pos hfits]
      exact ih (fun b hb => hdigits b (List.mem_cons_of_mem _ hb)) hfits h
    · rw [if_neg hfits]
      refine ⟨n, ds.length, rfl, ?_, mul_pow_le_decimalFrom n (d :: ds)⟩
      have hdigit := digitValue_le (hdigits d List.mem_cons_self)
      omega

/-! ## Literals -/

/-- The digits of an integer: one zero, or digits that do not start with zero. -/
inductive IntegerDigits : List UInt8 → Prop
  | zero : IntegerDigits ['0'.toUInt8]
  | nonzero {d : UInt8} {ds : List UInt8} : isDigit d = true → d ≠ '0'.toUInt8 →
      (∀ b ∈ ds, isDigit b = true) → IntegerDigits (d :: ds)

/-- An integer as JSON has it: perhaps a minus sign, then its digits, and neither a fraction nor an
exponent. -/
structure IntegerLiteral where
  negative : Bool
  digits : List UInt8
  wellFormed : IntegerDigits digits

namespace IntegerLiteral

/-- The literal as it is written. -/
def bytes (literal : IntegerLiteral) : List UInt8 :=
  if literal.negative then '-'.toUInt8 :: literal.digits else literal.digits

/-- The number that the literal denotes. -/
def value (literal : IntegerLiteral) : Int :=
  if literal.negative then -decimalFrom 0 literal.digits else decimalFrom 0 literal.digits

/-- The number fits 64 bits, signed or unsigned, and the literal is not `-0`. -/
def FitsWord (literal : IntegerLiteral) : Prop :=
  -2 ^ 63 ≤ literal.value ∧ literal.value ≤ 2 ^ 64 - 1 ∧
    literal.bytes ≠ ['-'.toUInt8, '0'.toUInt8]

/-- A value that the literal may be read as: an integer, of the type `integer` iff it fits a word,
and then it is the number itself. -/
structure DecodesTo (literal : IntegerLiteral) (value : Json) : Prop where
  isIntegerLike : value.isIntegerLike = true
  accepted : Schema.integer.accepts value = true
  typeName_integer : value.typeName = "integer" ↔ literal.FitsWord
  typeName_number : value.typeName = "number" ↔ ¬literal.FitsWord
  exact_of_fits : literal.FitsWord → value = .number (.whole literal.value)

end IntegerLiteral

/-- What can stand behind an integer: nothing, or a byte that does not continue a numeral. -/
inductive Stops : List UInt8 → Prop
  | nothing : Stops []
  | byte {b : UInt8} {rest : List UInt8} : isDigit b = false → b ≠ '.'.toUInt8 →
      b ≠ 'e'.toUInt8 → b ≠ 'E'.toUInt8 → Stops (b :: rest)

/-! ## Lemmas: reading a literal -/

theorem stops_of_blanks {rest : List UInt8} (h : Blanks rest) : Stops rest := by
  cases rest with
  | nil => exact .nothing
  | cons b rest =>
    rcases h b List.mem_cons_self with rfl | rfl | rfl | rfl <;>
      exact .byte (by decide) (by decide) (by decide) (by decide)

theorem IntegerDigits.isDigit {digits : List UInt8} (h : IntegerDigits digits) :
    ∀ b ∈ digits, isDigit b = true := by
  cases h with
  | zero =>
    intro b hb
    rw [List.mem_singleton.mp hb]
    decide
  | nonzero hd _ hds => exact List.forall_mem_cons.mpr ⟨hd, hds⟩

theorem takeWhile_isDigit {ds rest : List UInt8} (hds : ∀ b ∈ ds, isDigit b = true)
    (hrest : Stops rest) :
    (ds ++ rest).takeWhile isDigit = ds ∧ (ds ++ rest).dropWhile isDigit = rest := by
  rw [List.takeWhile_append_of_pos hds, List.dropWhile_append_of_pos hds]
  cases hrest with
  | nothing => simp
  | byte hb => simp [hb]

theorem wholePart_append {digits rest : List UInt8} (h : IntegerDigits digits) (hrest : Stops rest)
    (atEnd : Fault) : Json.wholePart atEnd (digits ++ rest) = .ok (digits, rest) := by
  cases h with
  | zero =>
    cases hrest with
    | nothing => rfl
    | byte hb =>
      unfold Json.wholePart
      simp only [List.cons_append, List.nil_append, if_true, hb, Bool.false_eq_true, if_false]
  | nonzero hd hzero hds =>
    obtain ⟨htake, hdrop⟩ := takeWhile_isDigit hds hrest
    unfold Json.wholePart
    simp only [List.cons_append, if_neg hzero, hd, if_true, htake, hdrop]

theorem fractionPart_of_stops {rest : List UInt8} (h : Stops rest) (atEnd : Fault) :
    fractionPart atEnd rest = .ok ([], rest) := by
  cases h with
  | nothing => rfl
  | byte _ hpoint => simp only [fractionPart, if_neg hpoint]

theorem exponentPart_of_stops {rest : List UInt8} (h : Stops rest) (atEnd : Fault) :
    exponentPart atEnd rest = .ok (none, rest) := by
  cases h with
  | nothing => rfl
  | byte _ _ hsmall hlarge =>
    simp only [exponentPart, if_neg (not_or.mpr ⟨hsmall, hlarge⟩)]

/-- A literal is read as its digits and nothing else. -/
theorem readNumeral_append {digits rest : List UInt8} (h : IntegerDigits digits) (hrest : Stops rest)
    (atEnd : Fault) : readNumeral atEnd (digits ++ rest) = .ok (⟨digits, [], none⟩, rest) := by
  unfold readNumeral
  simp only [wholePart_append h hrest, fractionPart_of_stops hrest, exponentPart_of_stops hrest]

/-! ## Lemmas: the number of a literal -/

theorem scaled?_natCast (m k : Nat) :
    scaled? m (k : Int) = stretch (Binary64.magnitudeOfNat m) k := by
  unfold scaled?
  rw [if_pos (Int.natCast_nonneg k), Int.toNat_natCast]

/-- A whole number times a power of ten is rounded to a whole number. -/
theorem one_dvd_stretch {units e scaled : Nat} (hunits : Binary64.one ∣ units)
    (h : stretch units e = some scaled) : Binary64.one ∣ scaled := by
  unfold stretch at h
  split at h
  · unfold Binary64.bounded? at h
    split at h
    · obtain rfl := Option.some.inj h
      exact Binary64.one_dvd_mul hunits (Binary64.one_dvd_magnitudeOfNat _)
    · cases h
  · split at h
    · obtain rfl := Option.some.inj h
      exact Nat.dvd_zero _
    · cases h

theorem exists_stretch {m k digits : Nat} (hm : m ≠ 0) (hdigits : digits ≤ 307)
    (h : m * 10 ^ k ≤ 10 ^ digits) : ∃ units, stretch (Binary64.magnitudeOfNat m) k = some units := by
  have hpow : 10 ^ k ≤ 10 ^ digits := (Nat.le_mul_of_pos_left _ (Nat.pos_of_ne_zero hm)).trans h
  have hk : k ≤ digits := (Nat.pow_le_pow_iff_right (by decide)).mp hpow
  unfold stretch Binary64.bounded?
  rw [if_pos (by omega), if_pos (Binary64.mul_magnitudes_lt hm hdigits h)]
  exact ⟨_, rfl⟩

section

variable {digits : List UInt8} (negative : Bool) (rest : List UInt8)

/-- Digits that fit 64 bits are read exactly. -/
theorem number_of_le (h : decimalFrom 0 digits ≤ significandLimit) :
    Numeral.number negative ⟨digits, [], none⟩ rest =
      .ok (plainNumber negative (decimalFrom 0 digits)) := by
  unfold Numeral.number
  simp only [absorb_of_le h, absorb, and_self, if_true]

/-- More digits are rounded to a whole number, or they are out of range. -/
theorem number_of_lt (hdigits : ∀ b ∈ digits, isDigit b = true)
    (h : significandLimit < decimalFrom 0 digits) :
    (∃ units, Binary64.one ∣ units ∧
      Numeral.number negative ⟨digits, [], none⟩ rest = .ok (.real ⟨negative, units⟩)) ∨
    (Numeral.number negative ⟨digits, [], none⟩ rest = .error (.before .numberOutOfRange rest) ∧
      307 < digits.length) := by
  obtain ⟨m, dropped, habsorb, hm, hle⟩ :=
    absorb_of_lt hdigits (by decide) (Nat.zero_le _) h
  have hnumber : Numeral.number negative ⟨digits, [], none⟩ rest =
      (stretch (Binary64.magnitudeOfNat m) (dropped + 1)).elim
        (.error (.before .numberOutOfRange rest)) fun units => .ok (.real ⟨negative, units⟩) := by
    rw [← scaled?_natCast]
    unfold Numeral.number
    simp only [habsorb, absorb, List.length_nil, Nat.succ_ne_zero, false_and, if_false,
      Nat.sub_zero, Int.natCast_zero, Int.sub_zero]
    cases scaled? m (dropped + 1 : Nat) <;> rfl
  rw [hnumber]
  cases hstretch : stretch (Binary64.magnitudeOfNat m) (dropped + 1) with
  | some units =>
    exact .inl ⟨units, one_dvd_stretch (Binary64.one_dvd_magnitudeOfNat m) hstretch, rfl⟩
  | none =>
    refine .inr ⟨rfl, Nat.lt_of_not_le fun hlength => ?_⟩
    have hlt := decimalFrom_lt 0 hdigits
    rw [Nat.zero_add, Nat.one_mul] at hlt
    obtain ⟨units, hunits⟩ := exists_stretch hm hlength (hle.trans hlt.le)
    rw [hunits] at hstretch
    cases hstretch

end

/-! ## Lemmas: the type of a literal -/

theorem IntegerDigits.decimalFrom_eq_zero_iff {digits : List UInt8} (h : IntegerDigits digits) :
    decimalFrom 0 digits = 0 ↔ digits = ['0'.toUInt8] := by
  cases h with
  | zero => decide
  | @nonzero d ds hd hzero _ =>
    have hvalue : digitValue d ≠ 0 := by
      intro hvalue
      have hbounds := isDigit_iff.mp hd
      refine hzero (UInt8.toNat_inj.mp ?_)
      show d.toNat = 0x30
      unfold digitValue at hvalue
      omega
    have hle : digitValue d ≤ decimalFrom 0 (d :: ds) := by
      have hfrom := le_decimalFrom (10 * 0 + digitValue d) ds
      rw [decimalFrom_cons]
      omega
    refine iff_of_false (by omega) fun heq => hzero (List.cons.inj heq).1

namespace IntegerLiteral

variable {literal : IntegerLiteral}

theorem value_of_negative (h : literal.negative = true) :
    literal.value = -decimalFrom 0 literal.digits := by
  unfold value
  rw [if_pos h]

theorem value_of_not_negative (h : literal.negative = false) :
    literal.value = decimalFrom 0 literal.digits := by
  unfold value
  rw [h, if_neg Bool.false_ne_true]

/-- With a minus sign, the numbers that fit are those from 1 to 2^63. -/
theorem fitsWord_iff_of_negative (h : literal.negative = true) :
    literal.FitsWord ↔ decimalFrom 0 literal.digits ≠ 0 ∧ decimalFrom 0 literal.digits ≤ 2 ^ 63 := by
  have hminus : literal.bytes = ['-'.toUInt8, '0'.toUInt8] ↔ decimalFrom 0 literal.digits = 0 := by
    rw [literal.wellFormed.decimalFrom_eq_zero_iff, bytes, if_pos h, List.cons.injEq]
    exact and_iff_right rfl
  unfold FitsWord
  rw [value_of_negative h, ne_eq, hminus]
  omega

/-- Without one, they are those up to 2^64 - 1. -/
theorem fitsWord_iff_of_not_negative (h : literal.negative = false) :
    literal.FitsWord ↔ decimalFrom 0 literal.digits ≤ 2 ^ 64 - 1 := by
  have hminus : literal.bytes ≠ ['-'.toUInt8, '0'.toUInt8] := by
    rw [bytes, h, if_neg Bool.false_ne_true]
    intro hdigits
    have hdigit := literal.wellFormed.isDigit '-'.toUInt8 (hdigits ▸ List.mem_cons_self)
    revert hdigit
    decide
  unfold FitsWord
  rw [value_of_not_negative h]
  constructor
  · rintro ⟨-, hle, -⟩
    omega
  · intro hle
    exact ⟨by omega, by omega, hminus⟩

theorem decodesTo_whole (h : literal.FitsWord) :
    literal.DecodesTo (.number (.whole literal.value)) where
  isIntegerLike := rfl
  accepted := rfl
  typeName_integer := iff_of_true rfl h
  typeName_number := iff_of_false (show "integer" ≠ "number" by decide) (not_not_intro h)
  exact_of_fits := fun _ => rfl

theorem decodesTo_real (h : ¬literal.FitsWord) {x : Binary64} (hx : Binary64.one ∣ x.units) :
    literal.DecodesTo (.number (.real x)) where
  isIntegerLike := Binary64.isWhole_iff.mpr hx
  accepted := Binary64.isWhole_iff.mpr hx
  typeName_integer := iff_of_false (show "number" ≠ "integer" by decide) h
  typeName_number := iff_of_true rfl h
  exact_of_fits := fun hfits => absurd hfits h

/-- Digits that fit 64 bits are a whole number, except with a minus sign before zero or before more
than 2^63. -/
theorem decodesTo_plainNumber (h : decimalFrom 0 literal.digits ≤ significandLimit) :
    literal.DecodesTo
      (.number (plainNumber literal.negative (decimalFrom 0 literal.digits))) := by
  unfold plainNumber
  cases hnegative : literal.negative with
  | true =>
    have hfits := fitsWord_iff_of_negative hnegative
    have hpow : Nat.pow 2 63 = 2 ^ 63 := rfl
    rw [if_pos rfl]
    split
    · next hreal =>
      refine decodesTo_real ?_ (Binary64.one_dvd_magnitudeOfNat _)
      rw [hfits]
      omega
    · next hwhole =>
      rw [← value_of_negative hnegative]
      refine decodesTo_whole (hfits.mpr ?_)
      omega
  | false =>
    rw [if_neg Bool.false_ne_true, ← value_of_not_negative hnegative]
    exact decodesTo_whole ((fitsWord_iff_of_not_negative hnegative).mpr h)

theorem not_fitsWord_of_lt (h : significandLimit < decimalFrom 0 literal.digits) :
    ¬literal.FitsWord := by
  have hlimit : significandLimit = 2 ^ 64 - 1 := rfl
  cases hnegative : literal.negative with
  | true =>
    rw [fitsWord_iff_of_negative hnegative]
    omega
  | false =>
    rw [fitsWord_iff_of_not_negative hnegative]
    omega

/-- A literal has a number that it decodes to, or it is out of range. -/
theorem number_cases (literal : IntegerLiteral) (rest : List UInt8) :
    (∃ n, Numeral.number literal.negative ⟨literal.digits, [], none⟩ rest = .ok n ∧
      literal.DecodesTo (.number n)) ∨
    (Numeral.number literal.negative ⟨literal.digits, [], none⟩ rest =
        .error (.before .numberOutOfRange rest) ∧
      ¬literal.FitsWord ∧ 307 < literal.digits.length) := by
  rcases Nat.lt_or_ge significandLimit (decimalFrom 0 literal.digits) with hlt | hle
  · rcases number_of_lt literal.negative rest literal.wellFormed.isDigit hlt with
      ⟨units, hunits, hnumber⟩ | ⟨hnumber, hlength⟩
    · exact .inl ⟨_, hnumber, decodesTo_real (not_fitsWord_of_lt hlt) hunits⟩
    · exact .inr ⟨hnumber, not_fitsWord_of_lt hlt, hlength⟩
  · exact .inl ⟨_, number_of_le _ rest hle, decodesTo_plainNumber hle⟩

end IntegerLiteral

/-! ## Lemmas: the value of a literal -/

theorem readWith_of_isDigit {list object : Reader Json} {b : UInt8} {rest : List UInt8}
    (h : isDigit b = true) :
    readWith list object (b :: rest) = mapRead .number (readNumber false) (b :: rest) := by
  have hbounds := isDigit_iff.mp h
  have hne : ∀ c : UInt8, c.toNat < 0x30 ∨ 0x39 < c.toNat → b ≠ c := by
    rintro c hc rfl
    omega
  have hblank : isBlankByte b = false := by
    unfold isBlankByte
    simp only [Bool.or_eq_false_iff, beq_eq_false_iff_ne]
    exact ⟨⟨⟨hne _ (by decide), hne _ (by decide)⟩, hne _ (by decide)⟩, hne _ (by decide)⟩
  have hskip : skipBlanks (b :: rest) = b :: rest := by
    unfold skipBlanks
    rw [List.dropWhile_cons_of_neg (by rw [hblank]; exact Bool.false_ne_true)]
  unfold readWith
  rw [hskip]
  simp only [if_neg (hne 'n'.toUInt8 (by decide)), if_neg (hne 't'.toUInt8 (by decide)),
    if_neg (hne 'f'.toUInt8 (by decide)), if_neg (hne '-'.toUInt8 (by decide)), h, if_true]

theorem readWith_minus (list object : Reader Json) (rest : List UInt8) :
    readWith list object ('-'.toUInt8 :: rest) = mapRead .number (readNumber true) rest := rfl

theorem readWith_append {list object : Reader Json} {before : List UInt8} (h : Blanks before)
    (rest : List UInt8) :
    readWith list object (before ++ rest) = readWith list object rest := by
  unfold readWith
  rw [skipBlanks_append h]

/-- The first byte of a literal tells that it is a number. -/
theorem IntegerLiteral.readWith_bytes (literal : IntegerLiteral) (list object : Reader Json)
    (rest : List UInt8) :
    readWith list object (literal.bytes ++ rest) =
      mapRead .number (readNumber literal.negative) (literal.digits ++ rest) := by
  obtain ⟨negative, digits, hwhole⟩ := literal
  cases negative with
  | true => exact readWith_minus list object _
  | false =>
    have hdigits := hwhole.isDigit
    cases digits with
    | nil => cases hwhole
    | cons d ds => exact readWith_of_isDigit (hdigits d List.mem_cons_self)

theorem readNumber_append {digits rest : List UInt8} (h : IntegerDigits digits)
    (hrest : Stops rest) (negative : Bool) :
    readNumber negative (digits ++ rest) =
      (Numeral.number negative ⟨digits, [], none⟩ rest).map fun n => (n, rest) := by
  unfold readNumber
  simp only [readNumeral_append h hrest]
  cases Numeral.number negative ⟨digits, [], none⟩ rest <;> rfl

/-- Wherever a value may stand, a literal is read as its number. -/
theorem readValue_literal (literal : IntegerLiteral) (depth : Nat) {before rest : List UInt8}
    (hbefore : Blanks before) (hrest : Stops rest) :
    readValue depth (before ++ (literal.bytes ++ rest)) =
      (Numeral.number literal.negative ⟨literal.digits, [], none⟩ rest).map
        fun n => (.number n, rest) := by
  have hread : ∀ list object, readWith list object (before ++ (literal.bytes ++ rest)) =
      mapRead .number (readNumber literal.negative) (literal.digits ++ rest) := by
    intro list object
    rw [readWith_append hbefore]
    exact literal.readWith_bytes list object rest
  have hvalue : readValue depth (before ++ (literal.bytes ++ rest)) =
      mapRead .number (readNumber literal.negative) (literal.digits ++ rest) := by
    cases depth <;> rw [readValue, hread]
  rw [hvalue]
  unfold mapRead
  rw [readNumber_append literal.wellFormed hrest]
  cases Numeral.number literal.negative ⟨literal.digits, [], none⟩ rest <;> rfl

/-! ## The theorem -/

/-- **Integers are integers, however long they are.** Wherever a value may stand, and as a whole
text, an integer literal is read as a value that counts as an integer and that the schema for
integers accepts. Its type is `integer` iff the number fits 64 bits and the literal is not `-0`, and
else it is `number`. The one way not to be read is to be out of range, and no literal of up to 307
digits is. -/
theorem integer_of_literal (literal : IntegerLiteral) :
    (∀ depth before rest, Blanks before → Stops rest →
      (∃ value, readValue depth (before ++ (literal.bytes ++ rest)) = .ok (value, rest) ∧
        literal.DecodesTo value) ∨
      (readValue depth (before ++ (literal.bytes ++ rest)) =
          .error (.before .numberOutOfRange rest) ∧
        ¬literal.FitsWord ∧ 307 < literal.digits.length)) ∧
    ∀ before after, Blanks before → Blanks after →
      (∃ value, parseBytes (before ++ (literal.bytes ++ after)) = .ok value ∧
        literal.DecodesTo value) ∨
      ((∃ e, parseBytes (before ++ (literal.bytes ++ after)) = .error e ∧
          e.fault = .numberOutOfRange) ∧
        ¬literal.FitsWord ∧ 307 < literal.digits.length) := by
  constructor
  · intro depth before rest hbefore hrest
    rw [readValue_literal literal depth hbefore hrest]
    rcases literal.number_cases rest with ⟨n, hn, hdecodes⟩ | ⟨hn, hlong⟩
    · rw [hn]
      exact .inl ⟨_, rfl, hdecodes⟩
    · rw [hn]
      exact .inr ⟨rfl, hlong⟩
  · intro before after hbefore hafter
    have hread := readValue_literal literal maxDepth hbefore (stops_of_blanks hafter)
    rcases literal.number_cases after with ⟨n, hn, hdecodes⟩ | ⟨hn, hlong⟩
    · rw [hn] at hread
      exact .inl ⟨_, readAll_eq_ok_iff.mpr ⟨after, hread, hafter⟩, hdecodes⟩
    · rw [hn] at hread
      refine .inr ⟨?_, hlong⟩
      unfold parseBytes readAll
      rw [hread]
      exact ⟨_, rfl, rfl⟩

/-- One more than fits 64 bits is rounded, and no fraction comes of it; a zero with a sign is one of
binary64. -/
example : (parse "18446744073709551616").toOption.map isIntegerLike = some true ∧
    (parse "18446744073709551616").toOption.map typeName = some "number" ∧
    (parse "18446744073709551615").toOption.map typeName = some "integer" ∧
    (parse "-0").toOption.map typeName = some "number" := by
  decide +kernel

end Gatehouse.Json
