import Gatehouse.Json.Failure
/-!
JSON numbers: their grammar, and the number that a numeral denotes.

Digits without a point or an exponent that fit 64 bits are a whole number, except `-0`. Every
other numeral is read as a binary64 number in three roundings: its first digits, as many as fit
64 bits, are rounded, then a power of ten is, then their product or quotient.
-/

namespace Gatehouse.Json

/-! ## Grammar -/

/-- The digits of a numeral. A fraction that is absent is empty. -/
structure Numeral where
  whole : List UInt8
  fraction : List UInt8
  exponent : Option (Bool × List UInt8)

/-- A decimal digit. -/
def isDigit (b : UInt8) : Bool :=
  0x30 ≤ b.toNat && b.toNat ≤ 0x39

/-- The value of a decimal digit. -/
def digitValue (b : UInt8) : Nat :=
  b.toNat - 0x30

/-- The whole part: one zero, or digits that do not start with zero. A fault at the end of the
text is `atEnd`. -/
def wholePart (atEnd : Fault) : Reader (List UInt8)
  | [] => .error ⟨atEnd, 0⟩
  | b :: rest =>
    if b = '0'.toUInt8 then
      match rest with
      | d :: _ => if isDigit d then .error (.at .invalidNumber rest) else .ok ([b], rest)
      | [] => .ok ([b], rest)
    else if isDigit b then .ok (b :: rest.takeWhile isDigit, rest.dropWhile isDigit)
    else .error (.before .invalidNumber rest)

/-- The fraction, if a point stands at the front. -/
def fractionPart (atEnd : Fault) : Reader (List UInt8)
  | [] => .ok ([], [])
  | b :: rest =>
    if b = '.'.toUInt8 then
      match rest.takeWhile isDigit with
      | [] => if rest.isEmpty then .error ⟨atEnd, 0⟩ else .error (.at .invalidNumber rest)
      | ds => .ok (ds, rest.dropWhile isDigit)
    else .ok ([], b :: rest)

/-- An optional sign; true for minus. -/
def signPart (bytes : List UInt8) : Bool × List UInt8 :=
  match bytes with
  | [] => (false, [])
  | b :: rest =>
    if b = '-'.toUInt8 then (true, rest)
    else if b = '+'.toUInt8 then (false, rest)
    else (false, b :: rest)

/-- The exponent, if its letter stands at the front. -/
def exponentPart (atEnd : Fault) : Reader (Option (Bool × List UInt8))
  | [] => .ok (none, [])
  | b :: rest =>
    if b = 'e'.toUInt8 ∨ b = 'E'.toUInt8 then
      match signPart rest with
      | (_, []) => .error ⟨atEnd, 0⟩
      | (negative, d :: rest) =>
        if isDigit d then
          .ok (some (negative, d :: rest.takeWhile isDigit), rest.dropWhile isDigit)
        else .error (.before .invalidNumber rest)
    else .ok (none, b :: rest)

/-- Reads a numeral without its sign. -/
def readNumeral (atEnd : Fault) : Reader Numeral := fun bytes =>
  match wholePart atEnd bytes with
  | .error e => .error e
  | .ok (whole, rest) =>
    match fractionPart atEnd rest with
    | .error e => .error e
    | .ok (fraction, rest) =>
      match exponentPart atEnd rest with
      | .error e => .error e
      | .ok (exponent, rest) => .ok (⟨whole, fraction, exponent⟩, rest)

/-! ## Value -/

/-- Appends digits to a number as long as it stays at most `limit`; also counts the digits that
are left. -/
def absorb (limit : Nat) : Nat → List UInt8 → Nat × Nat
  | n, [] => (n, 0)
  | n, d :: ds =>
    if 10 * n + digitValue d ≤ limit then absorb limit (10 * n + digitValue d) ds
    else (n, ds.length + 1)

/-- The largest number that the first digits of a numeral may form. -/
def significandLimit : Nat := Nat.pow 2 64 - 1

/-- The largest written exponent that is told apart. -/
def exponentLimit : Nat := Nat.pow 2 31 - 1

/-- A magnitude divided by a power of ten, 308 places at a time. -/
def shrink (units e : Nat) : Nat :=
  if e ≤ 308 then Binary64.div units (Binary64.magnitudeOfNat (Nat.pow 10 e))
  else if units = 0 then 0
  else shrink (Binary64.div units (Binary64.magnitudeOfNat (Nat.pow 10 308))) (e - 308)
termination_by e

/-- A magnitude times a power of ten, if it is in range. -/
def stretch (units e : Nat) : Option Nat :=
  if e ≤ 308 then
    Binary64.bounded? (Binary64.mul units (Binary64.magnitudeOfNat (Nat.pow 10 e)))
  else if units = 0 then some 0
  else none

/-- The magnitude of `significand * 10 ^ e`, if it is in range. -/
def scaled? (significand : Nat) (e : Int) : Option Nat :=
  let units := Binary64.magnitudeOfNat significand
  if 0 ≤ e then stretch units e.toNat else some (shrink units (-e).toNat)

/-- The number of plain digits that fit 64 bits. -/
def plainNumber (negative : Bool) (n : Nat) : Number :=
  if negative then
    if n = 0 ∨ Nat.pow 2 63 < n then .real ⟨true, Binary64.magnitudeOfNat n⟩ else .whole (-n)
  else .whole n

/-- The number of a numeral that stands before `rest`. -/
def Numeral.number (negative : Bool) (numeral : Numeral) (rest : List UInt8) :
    Except Failure Number :=
  let (n, dropped) := absorb significandLimit 0 numeral.whole
  let (significand, ignored) := absorb significandLimit n numeral.fraction
  let point : Int := dropped - (numeral.fraction.length - ignored : Nat)
  let real (e : Int) : Except Failure Number :=
    match scaled? significand e with
    | some units => .ok (.real ⟨negative, units⟩)
    | none => .error (.before .numberOutOfRange rest)
  match numeral.exponent with
  | none =>
    if dropped = 0 ∧ numeral.fraction = [] then .ok (plainNumber negative n) else real point
  | some (down, digits) =>
    let (e, excess) := absorb exponentLimit 0 digits
    if excess = 0 then real (if down then point - e else point + e)
    else if significand = 0 ∨ down then .ok (.real ⟨negative, 0⟩)
    else .error ⟨.numberOutOfRange, rest.length + (excess - 1)⟩

/-- Reads a number from behind its sign. -/
def readNumber (negative : Bool) : Reader Number := fun bytes =>
  match readNumeral .endInValue bytes with
  | .error e => .error e
  | .ok (numeral, rest) =>
    match numeral.number negative rest with
    | .error e => .error e
    | .ok n => .ok (n, rest)

/-- Goes to behind a numeral, whatever it denotes. -/
def skipNumber (bytes : List UInt8) : Except Failure (List UInt8) :=
  (readNumeral .invalidNumber bytes).map Prod.snd

end Gatehouse.Json
