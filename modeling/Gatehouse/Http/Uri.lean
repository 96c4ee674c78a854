import Gatehouse.Text.Ascii
/-!
The target of a request.

A target is a path that starts with a slash, or `*`, or an authority alone, or a scheme with
`://`, an authority, and a path that may be missing. A query may follow a path. What follows a
`#` is dropped. Nothing is decoded: the path and the query are kept as they are written.
-/

namespace Gatehouse.Http

/-- The target of a request. -/
structure Uri where
  scheme : Option String
  authority : Option String
  path : String
  query : Option String
  deriving Repr, DecidableEq

namespace Uri

/-! ## Characters -/

/-- A character that a path may have. -/
def isPathChar (c : Char) : Bool :=
  let n := c.toNat
  n == 0x21 || n == 0x22 || (0x24 ≤ n && n ≤ 0x3B) || n == 0x3D || (0x40 ≤ n && n ≤ 0x5F) ||
  (0x61 ≤ n && n ≤ 0x7E) || 0x80 ≤ n

/-- A character that a query may have. -/
def isQueryChar (c : Char) : Bool :=
  let n := c.toNat
  n == 0x21 || (0x24 ≤ n && n ≤ 0x3B) || n == 0x3D || (0x3F ≤ n && n ≤ 0x7E) || 0x80 ≤ n

/-- A character that a scheme may have. -/
def isSchemeChar (c : Char) : Bool :=
  c.isAlphanum || c == '+' || c == '-' || c == '.' || c == '~'

/-- A character that an authority may have, with the rules for colons, brackets, `@` and percent
signs aside. -/
def isAuthorityChar (c : Char) : Bool :=
  c.isAlphanum || "!$&'()*+,;=-._~:[]@%".toList.contains c

/-! ## Paths and queries -/

/-- What stands before a `#`. -/
def beforeFragment (cs : List Char) : List Char :=
  cs.takeWhile (· != '#')

/-- The text in front of the first question mark, and the text behind it if there is one. -/
def cutQuery (cs : List Char) : List Char × Option (List Char) :=
  match cs.dropWhile (· != '?') with
  | [] => (cs, none)
  | _ :: query => (cs.takeWhile (· != '?'), some query)

/-- A path and a query behind a scheme and an authority. An empty path is written `/`. -/
def withTarget? (scheme authority : Option String) (cs : List Char) : Option Uri :=
  let (path, query) := cutQuery (beforeFragment cs)
  if path.all isPathChar && (query.getD []).all isQueryChar then
    some ⟨scheme, authority, if path.isEmpty then "/" else String.ofList path,
      query.map String.ofList⟩
  else none

/-! ## Schemes -/

/-- The most characters that a scheme may have. -/
def maxSchemeLength : Nat := 64

/-- Cuts a scheme and the `://` behind it off. -/
def cutScheme (cs : List Char) : Option (String × List Char) :=
  match cs.dropWhile isSchemeChar with
  | ':' :: '/' :: '/' :: rest => some (String.ofList (cs.takeWhile isSchemeChar), rest)
  | _ => none

/-- The two schemes of the web are written in lower case. -/
def normalScheme (scheme : String) : String :=
  if Ascii.lower scheme = "http" ∨ Ascii.lower scheme = "https" then Ascii.lower scheme
  else scheme

/-! ## Authorities -/

/-- What has been seen of an authority: the colons and a percent sign since the last `@` or
closing bracket, and whether a bracket was opened and closed. -/
structure AuthorityState where
  colons : Nat
  percent : Bool
  opened : Bool
  closed : Bool

/-- The most colons in a row of parts. -/
def maxColons : Nat := 8

/-- Takes one more character of an authority. -/
def AuthorityState.step? (state : AuthorityState) (c : Char) : Option AuthorityState :=
  if !isAuthorityChar c then none
  else if c = ':' then
    if state.colons < maxColons then some { state with colons := state.colons + 1 } else none
  else if c = '[' then
    if state.percent || state.opened then none else some { state with opened := true }
  else if c = ']' then
    if state.opened && !state.closed then some ⟨0, false, true, true⟩ else none
  else if c = '@' then some { state with colons := 0, percent := false }
  else if c = '%' then some { state with percent := true }
  else some state

/-- A well-formed authority: brackets come in a pair, and behind the last `@` or bracket stand
at most one colon and no percent sign, and something. -/
def isAuthority (cs : List Char) : Bool :=
  match cs.foldlM AuthorityState.step? ⟨0, false, false, false⟩ with
  | none => false
  | some state =>
    state.opened == state.closed && state.colons ≤ 1 && !state.percent && cs.getLast? != some '@'

/-- A character that ends an authority. -/
def endsAuthority (c : Char) : Bool :=
  c == '/' || c == '?' || c == '#'

/-! ## Targets -/

/-- The most bytes that a target may have. -/
def maxLength : Nat := 65534

/-- A target that starts with a scheme. -/
def absolute? (scheme : String) (rest : List Char) : Option Uri :=
  let authority := rest.takeWhile (!endsAuthority ·)
  if scheme.length ≤ maxSchemeLength && !authority.isEmpty && isAuthority authority then
    withTarget? (some (normalScheme scheme)) (some (String.ofList authority))
      (rest.dropWhile (!endsAuthority ·))
  else none

/-- Reads a target. -/
def parse? (text : String) : Option Uri :=
  if text.utf8ByteSize > maxLength then none
  else if text = "*" then some ⟨none, none, "*", none⟩
  else
    match text.toList with
    | [] => none
    | '/' :: rest => withTarget? none none ('/' :: rest)
    | cs =>
      match cutScheme cs with
      | some (scheme, rest) => absolute? scheme rest
      | none =>
        if !cs.any endsAuthority && isAuthority cs then some ⟨none, some text, "", none⟩
        else none

/-- The text of a target. -/
def text (uri : Uri) : String :=
  (match uri.scheme with
    | some scheme => scheme ++ "://"
    | none => "") ++
  uri.authority.getD "" ++ uri.path ++
  (match uri.query with
    | some query => "?" ++ query
    | none => "")

end Uri

end Gatehouse.Http
