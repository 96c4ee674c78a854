import Gatehouse.Log.Event
import Gatehouse.Pattern.Group
/-!
Which events are logged.

A filter is a list of directives, which a text gives between commas: a level (`warn`), the start
of the names of sources (`a::b`), a field in brackets and braces (`[{name}]`), and a level behind an
equals sign (`a::b=warn`). The most specific of the directives that cover an event decides whether
it is logged; where two of them cover the same events, the later one does.
-/

namespace Gatehouse.Log

/-- Up to which level events are logged if their source has a name that starts with `source` and
they have a field `field`. Where either is empty, it asks for nothing. -/
structure Directive where
  source : String
  field : String
  threshold : Threshold
  deriving Repr, DecidableEq

namespace Directive

/-- The directive for all events. -/
def general (threshold : Threshold) : Directive := ⟨"", "", threshold⟩

/-- The directive is one for the event. -/
def covers (directive : Directive) (event : Event) : Bool :=
  directive.source.toList.isPrefixOf event.source.toList &&
  (directive.field == "" || Fields.has event.allFields directive.field)

/-- A directive is more specific than another: more of the name of a source, else a field, or one
with a later name. -/
def outranks (directive other : Directive) : Bool :=
  directive.source.length > other.source.length ||
  (directive.source.length == other.source.length && other.field < directive.field)

end Directive

/-- Directives, in order. -/
abbrev Filter := List Directive

namespace Filter

/-- The directive that decides about an event. -/
def decisive? (filter : Filter) (event : Event) : Option Directive :=
  (filter.filter (·.covers event)).foldl (fun best directive =>
    match best with
    | none => some directive
    | some best => some (if best.outranks directive then best else directive)) none

/-- The event is logged. -/
def admits (filter : Filter) (event : Event) : Bool :=
  match filter.decisive? event with
  | none => false
  | some directive => directive.threshold.admits event.level

end Filter

/-! ## Filters as text -/

/-- Why a text gives no filter: it cannot be read, or a part of it would begin or end inside a
character. -/
inductive Fault where
  | unreadable
  | insideCharacter
  deriving Repr, DecidableEq

/-- The number of bytes of a text. -/
def byteLength (text : List Char) : Nat :=
  (text.map Char.utf8Size).foldr (· + ·) 0

/-- A text in two parts, the first of so many bytes. -/
def splitBytes : List Char → Nat → Except Fault (List Char × List Char)
  | [], 0 => .ok ([], [])
  | [], _ + 1 => .error .insideCharacter
  | c :: cs, n =>
    if n = 0 then .ok ([], c :: cs)
    else if n < c.utf8Size then .error .insideCharacter
    else (splitBytes cs (n - c.utf8Size)).map fun (first, rest) => (c :: first, rest)

/-- One piece of the text of a filter. What belongs to which part is found in the piece without
blanks around it, but the parts are taken from the whole piece, at the same numbers of bytes. -/
structure Piece where
  whole : List Char

namespace Piece

/-- The part from one number of bytes to another. -/
def part (piece : Piece) (first last : Nat) : Except Fault (List Char) := do
  let (text, _) ← splitBytes piece.whole last
  let (_, text) ← splitBytes text first
  return text

/-- The part from a number of bytes on. -/
def partFrom (piece : Piece) (first : Nat) : Except Fault (List Char) := do
  let (_, text) ← splitBytes piece.whole first
  return text

end Piece

/-- A text may start with the character. -/
def isStart (c : Char) : Bool :=
  Text.isAlphanumeric c || ['-', ':', '_', '['].contains c

/-- The threshold at the end of a piece, `first` bytes from its start: everything, unless a level
stands there behind an equals sign. -/
def readThreshold (piece : Piece) (first : Nat) : List Char → Except Fault Threshold
  | [] => .ok (some .trace)
  | '=' :: _ => do
    let level ← piece.partFrom (first + 1)
    if level = [] then return some .trace
    match Threshold.ofText? (String.ofList level) with
    | none => throw .unreadable
    | some threshold => return threshold
  | _ => .error .unreadable

/-- The text is a decimal number, with or without a point and an exponent. -/
def isDecimal (text : List Char) : Bool :=
  let whole := text.takeWhile Char.isDigit
  let rest := text.dropWhile Char.isDigit
  let fraction := if rest.head? = some '.' then (rest.drop 1).takeWhile Char.isDigit else []
  let rest := if rest.head? = some '.' then (rest.drop 1).dropWhile Char.isDigit else rest
  !(whole.isEmpty && fraction.isEmpty) &&
  match rest with
  | [] => true
  | e :: rest =>
    (e == 'e' || e == 'E') &&
    Ascii.isDigits (if rest.head? = some '+' ∨ rest.head? = some '-' then rest.drop 1 else rest)

/-- The text is a number, which may be infinite or none. -/
def isNumber (text : List Char) : Bool :=
  let text := if text.head? = some '+' ∨ text.head? = some '-' then text.drop 1 else text
  isDecimal text || ["inf", "infinity", "nan"].contains (Ascii.lower (String.ofList text))

/-- What the brackets of a directive hold: the name of a span and, in braces, that of a field,
which may have to match a value. -/
structure Brackets where
  span : List Char
  field : Option (List Char)
  hasValue : Bool
  deriving Repr, DecidableEq

namespace Brackets

/-- Brackets with a field. A value is a number or a pattern, and goes to the next equals sign. -/
def ofField (span field : List Char) : Except Fault Brackets :=
  match field, field.dropWhile (· != '=') with
  | [], _ => .error .unreadable
  | field, [] => .ok ⟨span, some field, false⟩
  | field, _ :: rest =>
    let value := rest.takeWhile (· != '=')
    if isNumber value || Pattern.isPattern value then
      .ok ⟨span, some (field.takeWhile (· != '=')), true⟩
    else .error .unreadable

/-- Reads brackets, `first` bytes from the start of a piece, and what is behind them. -/
def read (piece : Piece) (first : Nat) (text : List Char) :
    Except Fault (Brackets × List Char) := do
  let span := text.takeWhile fun c => c != ']' && c != '{'
  match text.dropWhile fun c => c != ']' && c != '{' with
  | [] => throw .unreadable
  | c :: rest =>
    let last := first + byteLength span
    let name ← piece.part first last
    if c = ']' then return (⟨name, none, false⟩, rest)
    match rest.dropWhile (· != '}') with
    | [] => throw .unreadable
    | _ :: behind =>
      let field ← piece.part (last + 1) (last + 1 + byteLength (rest.takeWhile (· != '}')))
      let brackets ← ofField name field
      match behind with
      | ']' :: behind => return (brackets, behind)
      | _ => throw .unreadable

/-- The directives that brackets amount to. Those for a span or for the value of a field cover no
event, since no event here is in a span. -/
def directives (brackets : Brackets) (source : List Char) (threshold : Threshold) :
    List Directive :=
  match brackets.span, brackets.field with
  | [], some field =>
    if brackets.hasValue then []
    else [⟨String.ofList source, String.ofList field, threshold⟩]
  | _, _ => []

end Brackets

/-- The directive of a word: a level, or the start of the names of sources, for which everything
is logged. -/
def Directive.ofWord (word : String) : Directive :=
  match Threshold.ofText? word with
  | some threshold => .general threshold
  | none => ⟨word, "", some .trace⟩

/-- The directives that a piece amounts to. -/
def Piece.directives (piece : Piece) : Except Fault (List Directive) := do
  let text := Text.trim piece.whole
  let word := text.takeWhile fun c => c != '=' && c != '['
  if !text.head?.any isStart then throw .unreadable
  match text.dropWhile fun c => c != '=' && c != '[' with
  | [] => return [.ofWord (String.ofList piece.whole)]
  | '[' :: rest =>
    let source ← piece.part 0 (byteLength word)
    let (brackets, behind) ← Brackets.read piece (byteLength word + 1) rest
    let threshold ← readThreshold piece (byteLength text - byteLength behind) behind
    return brackets.directives source threshold
  | rest =>
    let source ← piece.part 0 (byteLength word)
    let threshold ← readThreshold piece (byteLength word) rest
    return [⟨String.ofList source, "", threshold⟩]

/-- The filter that a text names. An empty text admits errors alone. -/
def Filter.ofText (text : String) : Except Fault Filter :=
  match (text.toList.splitOn ',').filter (!·.isEmpty) with
  | [] => .ok [.general (some .error)]
  | pieces => (pieces.mapM fun piece => (Piece.mk piece).directives).map List.flatten

/-- The filter of a program: the one that a variable names, or the level for the verbosity if
there is none that can be read. There is no filter if a part of the text is inside a character. -/
def Filter.resolve? (setting : Option String) (verbosity : Nat) : Option Filter :=
  match setting.map Filter.ofText with
  | some (.ok filter) => some filter
  | some (.error .insideCharacter) => none
  | _ => some [.general (some (levelFor verbosity))]

end Gatehouse.Log
