import Gatehouse.Json.Failure
import Gatehouse.Text.Hex
import Gatehouse.Text.Utf8
/-!
JSON strings, from behind the opening quote to behind the closing one.
-/

namespace Gatehouse.Json

/-! ## Escapes -/

/-- The number of the four hexadecimal digits at the front. -/
def fourHex (bytes : List UInt8) : Except Failure Nat :=
  match bytes with
  | a :: b :: c :: d :: rest =>
    match Hex.value? a, Hex.value? b, Hex.value? c, Hex.value? d with
    | some a, some b, some c, some d => .ok (4096 * a + 256 * b + 16 * c + d)
    | _, _, _, _ => .error (.before .invalidEscape rest)
  | _ => .error ⟨.endInString, 0⟩

/-- The character that a letter behind a backslash stands for. -/
def shortEscape? (b : UInt8) : Option UInt8 :=
  if b = '"'.toUInt8 then some 0x22
  else if b = '\\'.toUInt8 then some 0x5C
  else if b = '/'.toUInt8 then some 0x2F
  else if b = 'b'.toUInt8 then some 0x08
  else if b = 'f'.toUInt8 then some 0x0C
  else if b = 'n'.toUInt8 then some 0x0A
  else if b = 'r'.toUInt8 then some 0x0D
  else if b = 't'.toUInt8 then some 0x09
  else none

/-- The second half of a surrogate pair, behind its first half. -/
def lowSurrogate (bytes : List UInt8) : Except Failure Nat :=
  match bytes with
  | [] => .error ⟨.endInString, 0⟩
  | b :: rest =>
    if b = '\\'.toUInt8 then
      match rest with
      | [] => .error ⟨.endInString, 0⟩
      | u :: rest =>
        if u = 'u'.toUInt8 then
          match fourHex rest with
          | .error e => .error e
          | .ok low =>
            if 0xDC00 ≤ low ∧ low ≤ 0xDFFF then .ok low
            else .error (.before .loneSurrogate (rest.drop 4))
        else .error (.before .unexpectedEndOfHexEscape rest)
    else .error (.before .unexpectedEndOfHexEscape rest)

/-- What stands behind a backslash: the bytes that it means, and the number of bytes it takes. -/
def escape (bytes : List UInt8) : Except Failure (List UInt8 × Nat) :=
  match bytes with
  | [] => .error ⟨.endInString, 0⟩
  | b :: rest =>
    match shortEscape? b with
    | some x => .ok ([x], 1)
    | none =>
      if b = 'u'.toUInt8 then
        match fourHex rest with
        | .error e => .error e
        | .ok n =>
          if 0xDC00 ≤ n ∧ n ≤ 0xDFFF then .error (.before .loneSurrogate (rest.drop 4))
          else if 0xD800 ≤ n ∧ n ≤ 0xDBFF then
            match lowSurrogate (rest.drop 4) with
            | .error e => .error e
            | .ok low =>
              let c := Char.ofNat (0x10000 + (n - 0xD800) * 1024 + (low - 0xDC00))
              .ok (Utf8.encodeChar c, 11)
          else .ok (Utf8.encodeChar (Char.ofNat n), 5)
      else .error (.before .invalidEscape rest)

/-! ## Reading -/

/-- The text of a string whose closing quote stands before `rest`. -/
def closeString (content rest : List UInt8) : Except Failure (String × List UInt8) :=
  match Utf8.decode? content with
  | some s => .ok (s, rest)
  | none =>
    .error ⟨.invalidUnicode, rest.length + (content.length - Utf8.validLength content)⟩

/-- Reads on in a string that has the reversed content `acc` so far; the first `skip` bytes
belong to an escape that was read. -/
def stringFrom : (skip : Nat) → (acc : List UInt8) → Reader String
  | _, _, [] => .error ⟨.endInString, 0⟩
  | skip + 1, acc, _ :: rest => stringFrom skip acc rest
  | 0, acc, b :: rest =>
    if b = '"'.toUInt8 then closeString acc.reverse rest
    else if b = '\\'.toUInt8 then
      match escape rest with
      | .error e => .error e
      | .ok (content, used) => stringFrom used (content.reverse ++ acc) rest
    else if b < 0x20 then .error (.before .controlCharacter rest)
    else stringFrom 0 (b :: acc) rest

/-- Reads a string from behind its opening quote. -/
def readString : Reader String :=
  stringFrom 0 []

/-! ## Skipping -/

/-- The number of bytes that an escape takes, whatever it means. -/
def escapeWidth (bytes : List UInt8) : Except Failure Nat :=
  match bytes with
  | [] => .error ⟨.endInString, 0⟩
  | b :: rest =>
    match shortEscape? b with
    | some _ => .ok 1
    | none =>
      if b = 'u'.toUInt8 then (fourHex rest).map fun _ => 5
      else .error (.before .invalidEscape rest)

/-- Goes on to behind the closing quote; the first `skip` bytes belong to an escape. -/
def skipStringFrom : (skip : Nat) → List UInt8 → Except Failure (List UInt8)
  | _, [] => .error ⟨.endInString, 0⟩
  | skip + 1, _ :: rest => skipStringFrom skip rest
  | 0, b :: rest =>
    if b = '"'.toUInt8 then .ok rest
    else if b = '\\'.toUInt8 then
      match escapeWidth rest with
      | .error e => .error e
      | .ok used => skipStringFrom used rest
    else if b < 0x20 then .error (.before .controlCharacter (b :: rest))
    else skipStringFrom 0 rest

/-- Goes from behind an opening quote to behind the closing one. -/
def skipString : List UInt8 → Except Failure (List UInt8) :=
  skipStringFrom 0

end Gatehouse.Json
