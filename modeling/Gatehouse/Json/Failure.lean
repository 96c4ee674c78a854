import Gatehouse.Json.Mismatch
/-!
Why a text is not the JSON that was wanted, and where.

While a text is read, a failure is placed by the number of bytes that remain after the blamed
position; the whole text then gives the line, and the column in bytes.
-/

namespace Gatehouse.Json

/-- What is wrong with a text. -/
inductive Fault where
  | endInValue
  | endInList
  | endInObject
  | endInString
  | expectedValue
  | expectedIdent
  | invalidNumber
  | numberOutOfRange
  | expectedListEnd
  | expectedObjectEnd
  | expectedColon
  | trailingComma
  | keyNotString
  | trailingCharacters
  | invalidEscape
  | unexpectedEndOfHexEscape
  | loneSurrogate
  | controlCharacter
  | tooDeep
  | invalidUnicode
  | mismatch (m : Mismatch)

/-- The words for a fault. -/
def Fault.message : Fault → String
  | .endInValue => "EOF while parsing a value"
  | .endInList => "EOF while parsing a list"
  | .endInObject => "EOF while parsing an object"
  | .endInString => "EOF while parsing a string"
  | .expectedValue => "expected value"
  | .expectedIdent => "expected ident"
  | .invalidNumber => "invalid number"
  | .numberOutOfRange => "number out of range"
  | .expectedListEnd => "expected `,` or `]`"
  | .expectedObjectEnd => "expected `,` or `\x7d`"
  | .expectedColon => "expected `:`"
  | .trailingComma => "trailing comma"
  | .keyNotString => "key must be a string"
  | .trailingCharacters => "trailing characters"
  | .invalidEscape => "invalid escape"
  | .unexpectedEndOfHexEscape => "unexpected end of hex escape"
  | .loneSurrogate => "lone leading surrogate in hex escape"
  | .controlCharacter =>
    "control character (\\u0000-\\u001F) found while parsing a string"
  | .tooDeep => "recursion limit exceeded"
  | .invalidUnicode => "invalid unicode code point"
  | .mismatch m => m.message

/-! ## Places -/

/-- A fault, with the number of bytes of the text after the blamed position. -/
structure Failure where
  fault : Fault
  remaining : Nat

/-- Blames the position before `rest`. -/
def Failure.before (fault : Fault) (rest : List UInt8) : Failure :=
  ⟨fault, rest.length⟩

/-- Blames the position behind the first byte of `rest`, if there is one. -/
def Failure.at (fault : Fault) (rest : List UInt8) : Failure :=
  ⟨fault, rest.length - 1⟩

/-- A place in a text: the line, counted from 1, and the number of bytes before the place in its
line. -/
structure Position where
  line : Nat
  column : Nat
  deriving Repr, DecidableEq

/-- The place behind the given bytes. -/
def Position.behind (bytes : List UInt8) : Position :=
  ⟨1 + bytes.count 0x0A, (bytes.reverse.takeWhile (· != 0x0A)).length⟩

/-- Why a text could not be read. -/
structure Error where
  fault : Fault
  position : Position

/-- The error of a failure in a text. -/
def Failure.toError (text : List UInt8) (failure : Failure) : Error :=
  ⟨failure.fault, .behind (text.take (text.length - failure.remaining))⟩

/-- The words for an error. -/
def Error.message (e : Error) : String :=
  e.fault.message ++ " at line " ++ toString e.position.line ++ " column " ++
    toString e.position.column

/-- Reads something off the front of a list of bytes. -/
abbrev Reader (α : Type) := List UInt8 → Except Failure (α × List UInt8)

end Gatehouse.Json
