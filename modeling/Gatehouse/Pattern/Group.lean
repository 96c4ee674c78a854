import Gatehouse.Pattern.Brackets
import Gatehouse.Text.Numeric
/-!
Groups of a pattern, and which texts are patterns.

A pattern is made of alternatives between bars, these of elements one after the other. An element
is a character, a set, a place, or a group in parentheses, and may be repeated. The patterns here
are those in which no brace is closed, so a brace outside of brackets never gives a count.
-/

namespace Gatehouse.Pattern

/-- What is read behind an opening parenthesis: flags for what follows, or the start of a group
with flags of its own and perhaps a name. -/
inductive Opening where
  | flags (flags : List Char)
  | group (flags : List Char) (name : Option (List Char))
  deriving Repr, DecidableEq

namespace Opening

/-- The name of a group. -/
def isName (name : List Char) : Bool :=
  match name with
  | [] => false
  | c :: rest =>
    (c == '_' || Text.isAlphabetic c) &&
    rest.all fun c => ['_', '.', '[', ']'].contains c || Text.isAlphanumeric c

/-- Reads the name of a group behind an opening angle. -/
def readName? (cs : List Char) : Option (Opening × List Char) :=
  match cs.dropWhile (· != '>') with
  | [] => none
  | _ :: rest =>
    if isName (cs.takeWhile (· != '>')) then some (.group [] (cs.takeWhile (· != '>')), rest)
    else none

/-- Reads flags behind a question mark. -/
def readFlags? (cs : List Char) : Option (Opening × List Char) :=
  let flags := cs.takeWhile fun c => c != ':' && c != ')'
  match cs.dropWhile fun c => c != ':' && c != ')' with
  | [] => none
  | c :: rest =>
    if !Mode.areFlags flags then none
    else if c = ':' then some (.group flags none, rest)
    else if flags = [] then none
    else some (.flags flags, rest)

/-- Reads what is behind an opening parenthesis. -/
def read? : List Char → Option (Opening × List Char)
  | '?' :: 'P' :: '<' :: cs => readName? cs
  | '?' :: '<' :: cs => readName? cs
  | '?' :: cs => readFlags? cs
  | cs => some (.group [] none, cs)

end Opening

/-- A group that is open: the mode behind it, the depth of the deepest alternative before the
last bar, the number of elements behind it, the depth of the deepest, and that of the last one if
it may be repeated. -/
structure Group where
  outer : Mode
  alternatives : Option Nat
  size : Nat
  deepest : Nat
  last : Option Nat
  deriving Repr, DecidableEq

namespace Group

/-- A group of which nothing has been read. -/
def start (outer : Mode) : Group := ⟨outer, none, 0, 0, none⟩

/-- Adds an element. -/
def add (group : Group) (depth : Nat) : Group :=
  { group with
    size := group.size + 1, deepest := max group.deepest depth, last := some depth }

/-- Adds flags, which cannot be repeated. -/
def addFlags (group : Group) : Group :=
  { group with size := group.size + 1, last := none }

/-- Repeats the last element. -/
def repeat? (group : Group) : Option Group :=
  group.last.map fun depth =>
    { group with deepest := max group.deepest (depth + 1), last := some (depth + 1) }

/-- The depth of the last alternative. More than one element is a level of its own. -/
def alternative (group : Group) : Nat :=
  if 2 ≤ group.size then group.deepest + 1 else group.deepest

/-- Adds a bar. -/
def split (group : Group) : Group :=
  { start group.outer with
    alternatives := some (max (group.alternatives.getD 0) group.alternative) }

/-- The depth of what the group holds. More than one alternative is a level of its own. -/
def depth (group : Group) : Nat :=
  match group.alternatives with
  | none => group.alternative
  | some depth => max depth group.alternative + 1

end Group

/-- How deeply a pattern may be nested. -/
def maxDepth : Nat := 250

/-- A pattern of which a part has been read: how it goes on, the names of its groups, the
innermost group that is open, and those around it. -/
structure Reading where
  mode : Mode
  names : List (List Char)
  group : Group
  outer : List Group
  deriving Repr, DecidableEq

namespace Reading

/-- Nothing has been read. -/
def start : Reading := ⟨.plain, [], .start .plain, []⟩

/-- Adds an element. -/
def add (reading : Reading) (depth : Nat) : Reading :=
  { reading with group := reading.group.add depth }

/-- Adds a character, which may be given as a byte. -/
def addLetter? (reading : Reading) (c : Char) (isByte : Bool) : Option Reading :=
  if reading.mode.admits c isByte then some (reading.add 0) else none

/-- Opens a group, or sets flags. The names of groups differ. -/
def open? (reading : Reading) : Opening → Option Reading
  | .flags flags =>
    some { reading with mode := reading.mode.set flags, group := reading.group.addFlags }
  | .group flags name =>
    if name.any reading.names.contains then none
    else some {
      mode := reading.mode.set flags
      names := name.toList ++ reading.names
      group := .start reading.mode
      outer := reading.group :: reading.outer }

/-- Closes a group. -/
def close? (reading : Reading) : Option Reading :=
  match reading.outer with
  | [] => none
  | next :: outer =>
    some { reading with
      mode := reading.group.outer, group := next.add (reading.group.depth + 1), outer := outer }

/-- Reads an element, a sign of repetition, a bar or a parenthesis. -/
def step? (reading : Reading) (c : Char) (rest : List Char) : Option (Reading × List Char) :=
  if c = '(' then
    match Opening.read? (reading.mode.skip rest) with
    | none => none
    | some (opening, rest) => (reading.open? opening).map (·, rest)
  else if c = ')' then reading.close?.map (·, rest)
  else if c = '|' then some ({ reading with group := reading.group.split }, rest)
  else if c = '[' then
    (Brackets.read? reading.mode rest).map fun (depth, rest) => (reading.add depth, rest)
  else if ['?', '*', '+'].contains c then
    reading.group.repeat?.map fun group =>
      ({ reading with group := group }, if rest.head? == some '?' then rest.drop 1 else rest)
  else if c = '{' then none
  else if c = '\\' then
    match Escape.read? reading.mode rest with
    | none => none
    | some (.letter c isByte, rest) => (reading.addLetter? c isByte).map (·, rest)
    | some (_, rest) => some (reading.add 0, rest)
  else if c = '.' then if reading.mode.bytewise then none else some (reading.add 0, rest)
  else if c = '^' || c = '$' then some (reading.add 0, rest)
  else (reading.addLetter? c false).map (·, rest)

/-- The rest of a pattern has been read. -/
def isDone (reading : Reading) : Bool :=
  reading.outer.isEmpty && reading.group.depth ≤ maxDepth

/-- The rest of a text makes a pattern. The fuel is more than the number of characters. -/
def completes : (fuel : Nat) → Reading → List Char → Bool
  | 0, _, _ => false
  | fuel + 1, reading, cs =>
    match reading.mode.skip cs with
    | [] => reading.isDone
    | c :: rest =>
      match reading.step? c rest with
      | none => false
      | some (reading, rest) => completes fuel reading rest

end Reading

/-- The text is a pattern. -/
def isPattern (text : List Char) : Bool :=
  Reading.start.completes (text.length + 1) text

end Gatehouse.Pattern
