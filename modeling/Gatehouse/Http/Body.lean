import Gatehouse.Http.Problem
import Gatehouse.Http.Query
import Gatehouse.Json.Reader
/-!
The body of a request as a value, by its media type.

JSON must be JSON. A form is an object of its named values. Everything else is one text. No bytes
are no body.
-/

namespace Gatehouse.Http

/-- The media types that are told apart. -/
inductive MediaType where
  | json
  | form
  | other
  deriving Repr, DecidableEq

/-- The media type that a `content-type` header names, its parameters aside. -/
def MediaType.ofText (text : String) : MediaType :=
  let name := Text.trim ((Ascii.lower text).toList.takeWhile (· != ';'))
  if name = "application/json".toList ∨ "+json".toList.isSuffixOf name then .json
  else if name = "application/x-www-form-urlencoded".toList then .form
  else .other

/-- The media type of a request with the given headers. -/
def MediaType.ofHeaders (headers : Headers) : MediaType :=
  .ofText ((headers.text? "content-type").getD "")

namespace Body

/-- The most bytes that a form may have. -/
def maxFormLength : Nat := 2097152

/-- The value of bytes of a media type. -/
def decode (mediaType : MediaType) (bytes : List UInt8) : Except Problem Json :=
  match mediaType with
  | .json =>
    match Json.parseBytes bytes with
    | .error e => .error (.malformedBody e.message)
    | .ok value => .ok value
  | .form =>
    if bytes.length > maxFormLength then
      .error (.malformedBody "Failed to buffer the request body: length limit exceeded")
    else .ok (.object (Query.ofPairs (Form.pairs bytes)))
  | .other => .ok (.string (Utf8.decodeLossy bytes))

/-- The value of the body of a request with the given headers. -/
def parse (headers : Headers) (bytes : List UInt8) : Except Problem (Option Json) :=
  if bytes.isEmpty then .ok none
  else (decode (.ofHeaders headers) bytes).map some

end Body

end Gatehouse.Http
