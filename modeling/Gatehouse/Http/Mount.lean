import Gatehouse.Http.Message
/-!
Handlers that are mounted under the start of a path.

A mount is a path of segments, and a segment may end in a capture: a colon and a name, which
stand for whatever a path has up to its next slash. A mounted handler sees the requests for the
mount itself and those for a path below it, which is the mount, a slash and something. A mount
that ends in a slash needs no more than its slash. The handler sees the path without the mount;
`received` keeps the whole.
-/

namespace Gatehouse.Http

/-- What stands between two slashes of a path. -/
abbrev Segment := List Char

namespace Segment

/-- The segment ends in a capture. -/
def hasCapture (segment : Segment) : Bool :=
  segment.contains ':'

/-- The segment is nothing but a capture. -/
def isCapture (segment : Segment) : Bool :=
  segment.head? == some ':'

/-- What the segment has in front of its capture. -/
def stem (segment : Segment) : List Char :=
  segment.takeWhile (· != ':')

/-- A mount may have the segment: there is no star, and a colon has a name without colons behind
it. -/
def isMountable (segment : Segment) : Bool :=
  !segment.contains '*' &&
  match segment.dropWhile (· != ':') with
  | [] => true
  | _ :: name => !name.isEmpty && !name.contains ':'

/-- A segment of a path fits one of a mount. At the very end of a path a capture stands for at
least one character. -/
def fits (mounted segment : Segment) (atEnd : Bool) : Bool :=
  if mounted.hasCapture then
    mounted.stem.isPrefixOf segment && !(atEnd && segment.length == mounted.stem.length)
  else mounted == segment

end Segment

/-- A path that a handler can be mounted under: its segments, and whether a slash is at the end. -/
structure Mount where
  segments : List Segment
  endsInSlash : Bool
  deriving Repr, DecidableEq

namespace Mount

/-- The most captures that a mount may have. -/
def maxCaptures : Nat := 25

/-- Segments that a mount may have. The first is more than a capture. -/
def areMountable (segments : List Segment) : Bool :=
  segments != [[]] && segments.all Segment.isMountable &&
  !(segments.headD []).isCapture && segments.countP Segment.hasCapture ≤ maxCaptures

/-- The mount of segments, the last of which is empty if a slash is at the end. -/
def ofSegments (segments : List Segment) : Mount :=
  if segments.getLast? = some [] then ⟨segments.dropLast, true⟩ else ⟨segments, false⟩

/-- The mount that a text names, if it names one. -/
def ofText? (text : String) : Option Mount :=
  match text.toList with
  | '/' :: rest =>
    if areMountable (rest.splitOn '/') then some (ofSegments (rest.splitOn '/')) else none
  | _ => none

/-! ## Paths below a mount -/

/-- The segments of a path behind those that fit the segments of a mount. -/
def behind? : List Segment → List Segment → Option (List Segment)
  | [], path => some path
  | _ :: _, [] => none
  | m :: mount, s :: path =>
    if m.fits s path.isEmpty then behind? mount path else none

/-- The segments of a path behind a mount, if the path is the mount or below it. -/
def below? (mount : Mount) (path : List Segment) : Option (List Segment) :=
  match behind? mount.segments path with
  | none => none
  | some rest =>
    if mount.endsInSlash then (if rest = [] then none else some rest)
    else if rest = [[]] then none
    else some rest

/-- Each segment of a mount is nothing but a capture, or is in the path as it is written. -/
def isWhole (mount : Mount) (path : List Segment) : Bool :=
  (mount.segments.zip path).all fun (m, s) => m.isCapture || m == s

/-- Segments without an empty one at the start. -/
def skipEmpty : List Segment → List Segment
  | [] :: path => path
  | path => path

/-- A path of segments, as it is written. -/
def pathText (path : List Segment) : List Char :=
  '/' :: List.intercalate ['/'] path

/-- The path that a mounted handler sees. A capture behind other characters of its segment leaves
the path as it is, unless the path spells it out. -/
def strip? (mount : Mount) : List Char → Option (List Char)
  | '/' :: path =>
    (mount.below? (path.splitOn '/')).map fun rest =>
      if mount.isWhole (path.splitOn '/') then
        pathText (skipEmpty (if mount.endsInSlash then skipEmpty rest else rest))
      else '/' :: path
  | _ => none

/-- Hands requests under the mount on; all others are not found. -/
def wrap (mount : Mount) (inner : Handler) : Handler := fun request =>
  match mount.strip? request.uri.path.toList with
  | none => .ofStatus 404
  | some path => inner { request with uri := { request.uri with path := String.ofList path } }

end Mount

/-- Answers with what came in: the method, the target and the body. -/
def echo : Handler := fun request =>
  .ofText 200 "text/plain; charset=utf-8"
    (request.method ++ " " ++ request.uri.text ++ " " ++ Utf8.decodeLossy request.body)

end Gatehouse.Http
