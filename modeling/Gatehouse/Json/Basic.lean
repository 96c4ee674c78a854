import Gatehouse.Binary64
import Gatehouse.Fields
import Gatehouse.Text.Ascii
import Gatehouse.Text.Blank
/-!
JSON values.

A number is a whole number between -2^63 and 2^64 - 1, or a binary64 number. An object is the
list of its fields in the order in which they were first given.
-/

namespace Gatehouse

/-- A JSON number. -/
inductive Number where
  | whole (n : Int)
  | real (x : Binary64)
  deriving Repr, DecidableEq

/-- A JSON value. -/
inductive Json where
  | null
  | bool (b : Bool)
  | number (n : Number)
  | string (s : String)
  | array (items : List Json)
  | object (fields : List (String × Json))

namespace Json

/-- The name of the type of a value. Whole numbers have a name of their own. -/
def typeName : Json → String
  | .null => "null"
  | .bool _ => "bool"
  | .number (.whole _) => "integer"
  | .number (.real _) => "number"
  | .string _ => "string"
  | .array _ => "array"
  | .object _ => "object"

/-- A string. -/
def isString : Json → Bool
  | .string _ => true
  | _ => false

/-- A value that counts as no content: `null`, and the object, list and string with nothing in
them. -/
def isBlank : Json → Bool
  | .null => true
  | .object fields => fields.isEmpty
  | .array items => items.isEmpty
  | .string s => s.isEmpty
  | _ => false

/-! ## Integers -/

/-- An optional sign, then decimal digits and nothing else. -/
def isSignedDigits : List Char → Bool
  | '-' :: ds => Ascii.isDigits ds
  | '+' :: ds => Ascii.isDigits ds
  | ds => Ascii.isDigits ds

/-- A text that is an integer, blanks around it aside. -/
def isIntegerText (s : String) : Bool :=
  isSignedDigits (Text.trim s.toList)

/-- A value that reads as an integer: a number without a fraction, or the text of an integer. -/
def isIntegerLike : Json → Bool
  | .number (.whole _) => true
  | .number (.real x) => x.isWhole
  | .string s => isIntegerText s
  | _ => false

end Json

end Gatehouse
