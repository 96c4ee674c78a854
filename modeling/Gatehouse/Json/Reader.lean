import Gatehouse.Json.Layout
import Gatehouse.Json.Numeral
import Gatehouse.Json.StringLiteral
/-!
Reading JSON values.

A value is read with a number of brackets that may still be opened, so that reading is a
recursion on that number; the loops over items and fields take the reader of the values inside
as an argument. Each turn of a loop takes at least one byte, so the number of bytes bounds it.
-/

namespace Gatehouse.Json

/-! ## Loops -/

/-- Reads the items of a list up to behind its bracket, and adds each to a state. -/
def readItems {σ : Type} (item : σ → Reader σ) : (turns : Nat) → (first : Bool) → σ → Reader σ
  | 0, _, _ => fun bytes => .error (.before .endInList bytes)
  | turns + 1, first, state => fun bytes =>
    match nextItem first bytes with
    | .error e => .error e
    | .ok (.closed rest) => .ok (state, rest)
    | .ok (.more rest) =>
      match item state rest with
      | .error e => .error e
      | .ok (state, rest) => readItems item turns false state rest

/-- Reads the fields of an object up to behind its bracket, and adds each to a state. What reads
a field starts behind the key. -/
def readFields {σ : Type} (field : σ → String → Reader σ) :
    (turns : Nat) → (first : Bool) → σ → Reader σ
  | 0, _, _ => fun bytes => .error (.before .endInObject bytes)
  | turns + 1, first, state => fun bytes =>
    match nextKey first bytes with
    | .error e => .error e
    | .ok (.closed rest) => .ok (state, rest)
    | .ok (.more rest) =>
      match readString rest with
      | .error e => .error e
      | .ok (key, rest) =>
        match field state key rest with
        | .error e => .error e
        | .ok (state, rest) => readFields field turns false state rest

/-- Reads what a list holds, from behind its opening bracket. -/
def readList {σ : Type} (item : σ → Reader σ) (start : σ) : Reader σ := fun bytes =>
  readItems item (bytes.length + 1) true start bytes

/-- Reads what an object holds, from behind its opening bracket. -/
def readObject {σ : Type} (field : σ → String → Reader σ) (start : σ) : Reader σ := fun bytes =>
  readFields field (bytes.length + 1) true start bytes

/-! ## Values -/

/-- Adds an item to the reversed items of a list. -/
def pushItem (value : Reader Json) (items : List Json) : Reader (List Json) := fun bytes =>
  match value bytes with
  | .error e => .error e
  | .ok (v, rest) => .ok (v :: items, rest)

/-- Adds a field to an object; a key given again takes the new value. -/
def putField (value : Reader Json) (fields : List (String × Json)) (key : String) :
    Reader (List (String × Json)) := fun bytes =>
  match skipColon bytes with
  | .error e => .error e
  | .ok rest =>
    match value rest with
    | .error e => .error e
    | .ok (v, rest) => .ok (Fields.put fields key v, rest)

/-- The value of a word of which the first letter was read. -/
def wordValue (expected : List Char) (value : Json) : Reader Json := fun bytes =>
  match readWord expected bytes with
  | .error e => .error e
  | .ok rest => .ok (value, rest)

/-- Changes what was read. -/
def mapRead {α β : Type} (f : α → β) (read : Reader α) : Reader β := fun bytes =>
  match read bytes with
  | .error e => .error e
  | .ok (a, rest) => .ok (f a, rest)

/-- Reads a value, blanks before it aside. What reads a list or an object is given, and starts
behind the opening bracket. -/
def readWith (list object : Reader Json) : Reader Json := fun bytes =>
  match skipBlanks bytes with
  | [] => .error ⟨.endInValue, 0⟩
  | b :: rest =>
    if b = 'n'.toUInt8 then wordValue ['u', 'l', 'l'] .null rest
    else if b = 't'.toUInt8 then wordValue ['r', 'u', 'e'] (.bool true) rest
    else if b = 'f'.toUInt8 then wordValue ['a', 'l', 's', 'e'] (.bool false) rest
    else if b = '-'.toUInt8 then mapRead .number (readNumber true) rest
    else if isDigit b then mapRead .number (readNumber false) (b :: rest)
    else if b = '"'.toUInt8 then mapRead .string readString rest
    else if b = '['.toUInt8 then list rest
    else if b = '\x7b'.toUInt8 then object rest
    else .error (.before .expectedValue rest)

/-- Refuses a bracket. -/
def refuseBracket : Reader Json := fun bytes =>
  .error (.before .tooDeep bytes)

/-- Reads a value in which at most `depth` brackets are open at a time. -/
def readValue : (depth : Nat) → Reader Json
  | 0 => readWith refuseBracket refuseBracket
  | depth + 1 =>
    readWith
      (mapRead (fun items => .array items.reverse) (readList (pushItem (readValue depth)) []))
      (mapRead .object (readObject (putField (readValue depth)) []))

/-- How many brackets may be open at a time. -/
def maxDepth : Nat := 127

/-- Reads a whole text. -/
def readAll {α : Type} (read : Reader α) (bytes : List UInt8) : Except Error α :=
  match read bytes with
  | .error e => .error (e.toError bytes)
  | .ok (a, rest) =>
    match endOfText rest with
    | .error e => .error (e.toError bytes)
    | .ok () => .ok a

/-- The value of a whole text, given as bytes. -/
def parseBytes (bytes : List UInt8) : Except Error Json :=
  readAll (readValue maxDepth) bytes

/-- The value of a whole text. -/
def parse (text : String) : Except Error Json :=
  parseBytes (Utf8.encode text)

end Gatehouse.Json
