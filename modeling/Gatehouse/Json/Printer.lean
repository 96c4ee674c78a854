import Gatehouse.Binary64.Shortest
import Gatehouse.Json.Basic
import Gatehouse.Text.Hex
/-!
JSON values as compact text.

Nothing stands between the parts of a value but the commas and colons. In a string only quotes,
backslashes and control characters are escaped, five of these with a letter of their own.
-/

namespace Gatehouse.Json

/-- One character of a string. -/
def escapeChar (c : Char) : List Char :=
  match c with
  | '"' => ['\\', '"']
  | '\\' => ['\\', '\\']
  | '\x08' => ['\\', 'b']
  | '\x0c' => ['\\', 'f']
  | '\n' => ['\\', 'n']
  | '\r' => ['\\', 'r']
  | '\t' => ['\\', 't']
  | c => if c.toNat < 0x20 then '\\' :: 'u' :: Hex.padded 4 c.toNat else [c]

/-- The text of a string. -/
def renderString (s : String) : List Char :=
  '"' :: (s.toList.flatMap escapeChar ++ ['"'])

/-- The text of a number. -/
def renderNumber : Number → List Char
  | .whole n => (toString n).toList
  | .real x => x.text.toList

mutual

/-- The text of a value, as characters. -/
def render : Json → List Char
  | .null => ['n', 'u', 'l', 'l']
  | .bool true => ['t', 'r', 'u', 'e']
  | .bool false => ['f', 'a', 'l', 's', 'e']
  | .number n => renderNumber n
  | .string s => renderString s
  | .array items => '[' :: (renderItems items ++ [']'])
  | .object fields => '\x7b' :: (renderFields fields ++ ['\x7d'])

/-- The texts of the items of a list, with commas between them. -/
def renderItems : List Json → List Char
  | [] => []
  | [item] => render item
  | item :: items => render item ++ ',' :: renderItems items

/-- The texts of the fields of an object, with commas between them. -/
def renderFields : List (String × Json) → List Char
  | [] => []
  | [(key, value)] => renderString key ++ ':' :: render value
  | (key, value) :: fields => renderString key ++ ':' :: (render value ++ ',' :: renderFields fields)

end

/-- The text of a value. -/
def text (value : Json) : String :=
  String.ofList value.render

end Gatehouse.Json
