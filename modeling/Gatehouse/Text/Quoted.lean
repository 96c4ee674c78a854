import Gatehouse.Text.Hex
import Gatehouse.Text.Unprintable
/-!
Texts in double quotes, as messages show them.

A quote and a backslash get a backslash before them, four control characters have a letter of
their own, and every other character that cannot be printed is shown as its number in braces.
-/

namespace Gatehouse.Text

/-- One character of a quoted text. -/
def quotedChar (c : Char) : String :=
  match c with
  | '\x00' => "\\0"
  | '\t' => "\\t"
  | '\n' => "\\n"
  | '\r' => "\\r"
  | '"' => "\\\""
  | '\\' => "\\\\"
  | c =>
    if isUnprintable c then "\\u\x7b" ++ String.ofList (Hex.shortest c.toNat) ++ "\x7d"
    else c.toString

/-- The text between double quotes, with escapes. -/
def quoted (s : String) : String :=
  "\"" ++ String.join (s.toList.map quotedChar) ++ "\""

end Gatehouse.Text
