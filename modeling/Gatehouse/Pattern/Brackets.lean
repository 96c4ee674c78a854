import Gatehouse.Pattern.Escape
/-!
Brackets in a pattern: sets of characters.

Brackets hold characters, ranges, named sets such as `[:digit:]` and other brackets. Two of `&`, `-`
or `~` combine what is before them with what is behind. Reading brackets gives how deeply they are
nested, since a pattern has a limit on that, and the text behind them.
-/

namespace Gatehouse.Pattern

/-- Brackets that are open: how many members have been read behind the last operator, the depth
of the deepest, the depth of what is before the operator, and whether only dashes have been read
so far. -/
structure Brackets where
  size : Nat
  deepest : Nat
  before : Option Nat
  opening : Bool
  deriving Repr, DecidableEq

namespace Brackets

/-- Brackets of which nothing has been read. -/
def start : Brackets := ⟨0, 0, none, true⟩

/-- Adds a member. -/
def add (brackets : Brackets) (depth : Nat) (opening : Bool) : Brackets :=
  { brackets with
    size := brackets.size + 1, deepest := max brackets.deepest depth, opening := opening }

/-- The depth of what is behind the last operator. More than one member is a level of its own. -/
def behind (brackets : Brackets) : Nat :=
  if 2 ≤ brackets.size then brackets.deepest + 1 else brackets.deepest

/-- The depth of what the brackets hold. -/
def depth (brackets : Brackets) : Nat :=
  match brackets.before with
  | none => brackets.behind
  | some before => max before brackets.behind + 1

/-- Adds an operator. -/
def combine (brackets : Brackets) : Brackets :=
  ⟨0, 0, some brackets.depth, false⟩

/-! ## Members -/

/-- The names of sets. -/
def names : List String :=
  ["alnum", "alpha", "ascii", "blank", "cntrl", "digit", "graph", "lower", "print", "punct",
    "space", "upper", "word", "xdigit"]

/-- Reads a named set behind its opening bracket, and whether its complement is meant. -/
def readNamed? : List Char → Option (Bool × List Char)
  | ':' :: cs =>
    let isComplement := cs.head? == some '^'
    let cs := if isComplement then cs.drop 1 else cs
    match cs.dropWhile (· != ':') with
    | ':' :: ']' :: rest =>
      if names.contains (String.ofList (cs.takeWhile (· != ':'))) then some (isComplement, rest)
      else none
    | _ => none
  | _ => none

/-- A named set, or its complement, may be in brackets. Bytewise no complement may be. -/
def admitsNamed (mode : Mode) (isComplement : Bool) : Bool :=
  if mode.bytewise then !isComplement else !mode.foldsCase

/-- Reads a character or what stands for one. -/
def readPart? (mode : Mode) : List Char → Option (Escape × List Char)
  | [] => none
  | c :: rest => if c = '\\' then Escape.read? mode rest else some (.letter c false, rest)

/-- Brackets may hold what has been read as a member. -/
def admits (mode : Mode) : Escape → Bool
  | .letter c _ => mode.admitsMember c
  | .set => true
  | .place => false

/-- A range may have these ends. -/
def admitsRange (mode : Mode) : Escape → Escape → Bool
  | .letter first _, .letter last _ =>
    mode.admitsMember first && mode.admitsMember last && first.toNat ≤ last.toNat
  | _, _ => false

/-- Reads a character, a set or a range. A dash before a bracket or another dash makes no
range. -/
def readMember? (mode : Mode) (cs : List Char) : Option (List Char) :=
  match readPart? mode cs with
  | none => none
  | some (first, rest) =>
    match mode.skip rest with
    | [] => none
    | c :: rest =>
      let ends := (mode.skip rest).head?
      if c != '-' || ends == some ']' || ends == some '-' then
        if admits mode first then some (c :: rest) else none
      else
        match readPart? mode (mode.skip rest) with
        | none => none
        | some (last, rest) => if admitsRange mode first last then some rest else none

/-! ## Nested brackets -/

/-- Reads what may be behind an opening bracket: a sign for the complement, which cannot be meant
bytewise. -/
def readStart? (mode : Mode) (cs : List Char) : Option (List Char) :=
  match mode.skip cs with
  | [] => none
  | c :: rest =>
    if c != '^' then some (c :: rest)
    else if mode.bytewise then none
    else some rest

/-- Reads brackets to their end, with those around them in `outer`. The fuel is more than the
number of characters. -/
def readRest? (mode : Mode) :
    (fuel : Nat) → Brackets → (outer : List Brackets) → List Char → Option (Nat × List Char)
  | 0, _, _, _ => none
  | fuel + 1, brackets, outer, cs =>
    match mode.skip cs with
    | [] => none
    | c :: rest =>
      if brackets.opening && (c == '-' || (c == ']' && brackets.size == 0)) then
        if mode.admitsMember c then readRest? mode fuel (brackets.add 0 (c == '-')) outer rest
        else none
      else if c = ']' then
        match outer with
        | [] => some (brackets.depth + 1, rest)
        | next :: outer => readRest? mode fuel (next.add (brackets.depth + 1) false) outer rest
      else if c = '[' then
        match readNamed? rest with
        | some (isComplement, rest) =>
          if admitsNamed mode isComplement then
            readRest? mode fuel (brackets.add 0 false) outer rest
          else none
        | none =>
          match readStart? mode rest with
          | none => none
          | some rest => readRest? mode fuel start (brackets :: outer) rest
      else if ['&', '-', '~'].contains c && rest.head? == some c then
        readRest? mode fuel brackets.combine outer (rest.drop 1)
      else
        match readMember? mode (c :: rest) with
        | none => none
        | some rest => readRest? mode fuel (brackets.add 0 false) outer rest

/-- Reads brackets behind the opening one. -/
def read? (mode : Mode) (cs : List Char) : Option (Nat × List Char) :=
  match readStart? mode cs with
  | none => none
  | some rest => readRest? mode (rest.length + 1) start [] rest

end Brackets

end Gatehouse.Pattern
