import Gatehouse.Json.Reader
import Gatehouse.Json.Skip
/-!
Records read straight from text.

A record is written as an object, its fields in any order and unknown ones skipped, or as a list
of the values of its fields in their fixed order, of which any number may be missing at the end.
The state of a record starts with the default of every field.
-/

namespace Gatehouse.Json

/-! ## Values of one form -/

/-- The failure of a value of the wrong type. The value is behind the blamed position, unless it
is a list or an object. -/
def wrongType (expected : String) (bytes : List UInt8) : Failure :=
  match skipBlanks bytes with
  | [] => ⟨.endInValue, 0⟩
  | b :: rest =>
    if b = '['.toUInt8 then .before (.mismatch (.invalidType .sequence expected)) (b :: rest)
    else if b = '\x7b'.toUInt8 then .before (.mismatch (.invalidType .map expected)) (b :: rest)
    else
      match readValue 0 (b :: rest) with
      | .error e => e
      | .ok (v, rest) => .before (.mismatch (mistyped v expected)) rest

/-- Reads something that starts with the byte `opening`, from behind that byte. -/
def readFrom {α : Type} (opening : UInt8) (expected : String) (read : Reader α) : Reader α :=
  fun bytes =>
    match skipBlanks bytes with
    | [] => .error ⟨.endInValue, 0⟩
    | b :: rest => if b = opening then read rest else .error (wrongType expected (b :: rest))

/-- Reads a string. -/
def readText (expected : String) : Reader String :=
  readFrom '"'.toUInt8 expected readString

/-- Reads a whole number from 0 to `limit`. -/
def readUnsigned (expected : String) (limit : Nat) : Reader Nat := fun bytes =>
  match skipBlanks bytes with
  | [] => .error ⟨.endInValue, 0⟩
  | b :: rest =>
    if b = '-'.toUInt8 ∨ isDigit b then
      match readValue 0 (b :: rest) with
      | .error e => .error e
      | .ok (.number (.whole n), rest) =>
        if 0 ≤ n ∧ n ≤ limit then .ok (n.toNat, rest)
        else .error (.before (.mismatch (.invalidValue (.whole n) expected)) rest)
      | .ok (v, rest) => .error (.before (.mismatch (mistyped v expected)) rest)
    else .error (wrongType expected (b :: rest))

/-- Reads a list of strings. -/
def readTexts : Reader (List String) :=
  readFrom '['.toUInt8 "a sequence"
    (mapRead List.reverse (readList (fun acc => mapRead (· :: acc) (readText "a string")) []))

/-! ## Records -/

/-- A field of a record with the state `σ`: its name, and how its value is read into the
state. -/
structure FieldReader (σ : Type) where
  name : String
  read : σ → Reader σ

/-- The failure of a key that is there twice, which was read to before `rest`. What is blamed is
the next byte that is not blank; a closing bracket there is passed too. -/
def duplicateKey (name : String) (rest : List UInt8) : Failure :=
  match skipBlanks rest with
  | b :: rest =>
    .before (.mismatch (.duplicateField name)) (if b = '\x7d'.toUInt8 then rest else b :: rest)
  | [] => ⟨.mismatch (.duplicateField name), 0⟩

/-- Reads one field of a record written as an object. The state also has the names seen. -/
def recordField {σ : Type} (fields : List (FieldReader σ)) (state : σ × List String)
    (key : String) : Reader (σ × List String) := fun bytes =>
  match fields.find? (·.name == key) with
  | none =>
    match skipColon bytes with
    | .error e => .error e
    | .ok rest =>
      match skipValue rest with
      | .error e => .error e
      | .ok rest => .ok (state, rest)
  | some field =>
    if state.2.contains key then .error (duplicateKey key bytes)
    else
      match skipColon bytes with
      | .error e => .error e
      | .ok rest => mapRead (fun s => (s, key :: state.2)) (field.read state.1) rest

/-- Closes a record written as a list. -/
def closeRecord (bytes : List UInt8) : Except Failure (List UInt8) :=
  match skipBlanks bytes with
  | [] => .error ⟨.endInList, 0⟩
  | b :: rest =>
    if b = ']'.toUInt8 then .ok rest
    else if b = ','.toUInt8 then
      match skipBlanks rest with
      | [] => .error ⟨.trailingCharacters, 0⟩
      | c :: rest =>
        .error (.before (if c = ']'.toUInt8 then .trailingComma else .trailingCharacters) rest)
    else .error (.before .trailingCharacters rest)

/-- Reads a record written as a list, from behind its opening bracket. -/
def recordItems {σ : Type} : (fields : List (FieldReader σ)) → (first : Bool) → σ → Reader σ
  | [], _, state => fun bytes =>
    match closeRecord bytes with
    | .error e => .error e
    | .ok rest => .ok (state, rest)
  | field :: fields, first, state => fun bytes =>
    match nextItem first bytes with
    | .error e => .error e
    | .ok (.closed rest) => .ok (state, rest)
    | .ok (.more rest) =>
      match field.read state rest with
      | .error e => .error e
      | .ok (state, rest) => recordItems fields false state rest

/-- Reads a record. -/
def readRecord {σ : Type} (expected : String) (fields : List (FieldReader σ)) (start : σ) :
    Reader σ := fun bytes =>
  match skipBlanks bytes with
  | [] => .error ⟨.endInValue, 0⟩
  | b :: rest =>
    if b = '\x7b'.toUInt8 then
      mapRead Prod.fst (readObject (recordField fields) (start, [])) rest
    else if b = '['.toUInt8 then recordItems fields true start rest
    else .error (wrongType expected (b :: rest))

end Gatehouse.Json
