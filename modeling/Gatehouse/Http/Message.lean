import Gatehouse.Http.Uri
import Gatehouse.Text.Utf8
/-!
Requests and responses.
-/

namespace Gatehouse.Http

/-- Headers, in order. Names are in lower case. -/
abbrev Headers := List (String × List UInt8)

namespace Headers

/-- The first value under a name. -/
def first? (headers : Headers) (name : String) : Option (List UInt8) :=
  headers.lookup name

/-- A byte that is an ASCII character which can be seen, a space or a tab. -/
def isVisible (b : UInt8) : Bool :=
  (0x20 ≤ b.toNat && b.toNat < 0x7F) || b.toNat == 0x09

/-- The first value under a name, if it is text of visible ASCII characters. -/
def text? (headers : Headers) (name : String) : Option String :=
  match headers.first? name with
  | none => none
  | some value => if value.all isVisible then Utf8.decode? value else none

end Headers

/-- A character that the name of a method may have. -/
def isMethodChar (c : Char) : Bool :=
  c.isAlphanum || "!#$%&'*+-.^_`|~".toList.contains c

/-- The name of a method. -/
def isMethod (name : String) : Bool :=
  !name.isEmpty && name.toList.all isMethodChar

/-- A request. The target may have lost a start of its path on the way; `received` is the target
that came in. -/
structure Request where
  method : String
  uri : Uri
  received : Uri
  headers : Headers
  body : List UInt8

/-- A response. -/
structure Response where
  status : Nat
  headers : Headers
  body : List UInt8

/-- What answers requests. -/
abbrev Handler := Request → Response

namespace Response

/-- A response with nothing but a status. -/
def ofStatus (status : Nat) : Response :=
  ⟨status, [], []⟩

/-- A response with text of a media type. -/
def ofText (status : Nat) (mediaType text : String) : Response :=
  ⟨status, [("content-type", Utf8.encode mediaType)], Utf8.encode text⟩

/-- Adds a header. -/
def addHeader (response : Response) (name : String) (value : List UInt8) : Response :=
  { response with headers := response.headers ++ [(name, value)] }

/-- Adds a header with a text. -/
def addText (response : Response) (name text : String) : Response :=
  response.addHeader name (Utf8.encode text)

end Response

end Gatehouse.Http
