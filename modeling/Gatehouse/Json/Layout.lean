import Gatehouse.Json.Failure
/-!
What stands between JSON values: blanks, brackets, commas and colons.

Lists and objects are walked by the same two questions: is there a next item, and is there a
next key. The answers decide which fault a misplaced comma is.
-/

namespace Gatehouse.Json

/-- A byte that may stand between the parts of a JSON text. -/
def isBlankByte (b : UInt8) : Bool :=
  b == 0x20 || b == 0x0A || b == 0x09 || b == 0x0D

/-- The bytes from the first that is not blank. -/
def skipBlanks (bytes : List UInt8) : List UInt8 :=
  bytes.dropWhile isBlankByte

/-- The answer to whether there is more in a list or an object. -/
inductive Next where
  /-- The closing bracket stood there; the bytes behind it. -/
  | closed (rest : List UInt8)
  /-- Something more stands there: an item, or a key from behind its quote. -/
  | more (rest : List UInt8)

/-- Asks for the next item of a list. -/
def nextItem (first : Bool) (bytes : List UInt8) : Except Failure Next :=
  match skipBlanks bytes with
  | [] => .error ⟨.endInList, 0⟩
  | b :: rest =>
    if b = ']'.toUInt8 then .ok (.closed rest)
    else if first then .ok (.more (b :: rest))
    else if b = ','.toUInt8 then
      match skipBlanks rest with
      | [] => .error ⟨.endInValue, 0⟩
      | c :: rest =>
        if c = ']'.toUInt8 then .error (.before .trailingComma rest) else .ok (.more (c :: rest))
    else .error (.before .expectedListEnd rest)

/-- Asks for the next key of an object. -/
def nextKey (first : Bool) (bytes : List UInt8) : Except Failure Next :=
  match skipBlanks bytes with
  | [] => .error ⟨.endInObject, 0⟩
  | b :: rest =>
    if b = '\x7d'.toUInt8 then .ok (.closed rest)
    else if first then
      if b = '"'.toUInt8 then .ok (.more rest) else .error (.before .keyNotString rest)
    else if b = ','.toUInt8 then
      match skipBlanks rest with
      | [] => .error ⟨.endInValue, 0⟩
      | c :: rest =>
        if c = '"'.toUInt8 then .ok (.more rest)
        else if c = '\x7d'.toUInt8 then .error (.before .trailingComma rest)
        else .error (.before .keyNotString rest)
    else .error (.before .expectedObjectEnd rest)

/-- Goes to behind the colon after a key. -/
def skipColon (bytes : List UInt8) : Except Failure (List UInt8) :=
  match skipBlanks bytes with
  | [] => .error ⟨.endInObject, 0⟩
  | b :: rest => if b = ':'.toUInt8 then .ok rest else .error (.before .expectedColon rest)

/-- Goes to behind the rest of a word of which `expected` is still to come. -/
def readWord : (expected : List Char) → List UInt8 → Except Failure (List UInt8)
  | [], bytes => .ok bytes
  | _ :: _, [] => .error ⟨.endInValue, 0⟩
  | c :: expected, b :: rest =>
    if b = c.toUInt8 then readWord expected rest else .error (.before .expectedIdent rest)

/-- Nothing but blanks may follow. -/
def endOfText (bytes : List UInt8) : Except Failure Unit :=
  match skipBlanks bytes with
  | [] => .ok ()
  | _ :: rest => .error (.before .trailingCharacters rest)

end Gatehouse.Json
