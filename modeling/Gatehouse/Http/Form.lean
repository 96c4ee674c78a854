import Gatehouse.Text.Hex
import Gatehouse.Text.Utf8
/-!
Form encoding: pairs of names and values as bytes.

Pairs stand between `&`, and empty pieces are skipped. A pair is cut at its first `=`; one without
it has an empty value. In both parts `+` is a space, a percent sign with two digits is a byte (any
other percent sign stands for itself), and the bytes are UTF-8, broken pieces shown as U+FFFD.
-/

namespace Gatehouse.Http.Form

/-- A plus sign stands for a space. -/
def plusToSpace (b : UInt8) : UInt8 :=
  if b = '+'.toUInt8 then ' '.toUInt8 else b

/-- Replaces percent signs with two digits by the byte they denote. -/
def percentDecode : List UInt8 → List UInt8
  | b :: high :: low :: rest =>
    if b = '%'.toUInt8 then
      match Hex.value? high, Hex.value? low with
      | some h, some l => UInt8.ofNat (16 * h + l) :: percentDecode rest
      | _, _ => b :: percentDecode (high :: low :: rest)
    else b :: percentDecode (high :: low :: rest)
  | bytes => bytes

/-- The text of one part of a pair. -/
def decodePart (bytes : List UInt8) : String :=
  Utf8.decodeLossy (percentDecode (bytes.map plusToSpace))

/-- The pair of one piece. -/
def decodePair (piece : List UInt8) : String × String :=
  (decodePart (piece.takeWhile (· != '='.toUInt8)),
    decodePart ((piece.dropWhile (· != '='.toUInt8)).drop 1))

/-- The pairs of a form, in order. -/
def pairs (bytes : List UInt8) : List (String × String) :=
  ((bytes.splitOn '&'.toUInt8).filter (!·.isEmpty)).map decodePair

end Gatehouse.Http.Form
