import Gatehouse.Http.Message
/-!
Cross-origin requests: which origins may see an answer.

Every answer says that it depends on the origin. Without a list of origins every origin is
allowed; with one, only an origin on the list, by its own name. An `OPTIONS` request is answered
here and goes no further.
-/

namespace Gatehouse.Http

/-- The origins that are allowed. -/
inductive Origins where
  | any
  | listed (origins : List (List UInt8))
  deriving Repr, DecidableEq

namespace Origins

/-- A byte that the value of a header may have. -/
def isLegalByte (b : UInt8) : Bool :=
  (0x20 ≤ b.toNat && b.toNat != 0x7F) || b.toNat == 0x09

/-- The origins that a list of texts allows. Texts that cannot be in a header are dropped. A
list must not hold `*`. -/
def ofList? (texts : List String) : Option Origins :=
  if texts.isEmpty then some .any
  else
    let legal := (texts.map Utf8.encode).filter (·.all isLegalByte)
    if legal.contains (Utf8.encode "*") then none else some (.listed legal)

/-- The origin that an answer allows. -/
def allowed? (origins : Origins) (headers : Headers) : Option (List UInt8) :=
  match origins with
  | .any => some (Utf8.encode "*")
  | .listed list => (headers.first? "origin").filter list.contains

/-- Adds to an answer what the browser has to know. -/
def mark (origins : Origins) (headers : Headers) (response : Response) : Response :=
  let response := match origins.allowed? headers with
    | none => response
    | some origin => response.addHeader "access-control-allow-origin" origin
  response.addText "vary"
    "origin, access-control-request-method, access-control-request-headers"

/-- The answer to an `OPTIONS` request. -/
def preflight (origins : Origins) (headers : Headers) : Response :=
  ((origins.mark headers (.ofStatus 200)).addText "access-control-allow-methods" "*").addText
    "access-control-allow-headers" "*"

/-- The handler with the rules for origins around it. -/
def wrap (origins : Origins) (inner : Handler) : Handler := fun request =>
  if request.method = "OPTIONS" then origins.preflight request.headers
  else origins.mark request.headers (inner request)

end Origins

end Gatehouse.Http
