import Gatehouse.Text.Utf8
/-!
Reading files, and trees of files kept in memory.

A tree holds files under a current directory. What lies outside of it are directories with
nothing known in them. A path is walked name by name, so every name before the last must be a
directory, `..` included.
-/

namespace Gatehouse

namespace Files

/-- Why a file could not be read. -/
inductive ReadError where
  | nulInPath
  | notFound
  | notDirectory
  | isDirectory
  | nameTooLong
  | notText
  | system (text : String)
  deriving Repr, DecidableEq

/-- The words for a failed reading. -/
def ReadError.message : ReadError → String
  | .nulInPath => "file name contained an unexpected NUL byte"
  | .notFound => "No such file or directory (os error 2)"
  | .notDirectory => "Not a directory (os error 20)"
  | .isDirectory => "Is a directory (os error 21)"
  | .nameTooLong => "File name too long (os error 36)"
  | .notText => "stream did not contain valid UTF-8"
  | .system text => text

/-- A way to read the bytes of the file at a path. -/
abbrev Source (m : Type → Type) := String → m (Except ReadError (List UInt8))

/-- Reads a file that must be text. -/
def Source.readText {m : Type → Type} [Monad m] (source : Source m) (path : String) :
    m (Except ReadError String) := do
  match ← source path with
  | .error e => return .error e
  | .ok bytes =>
    match Utf8.decode? bytes with
    | none => return .error .notText
    | some text => return .ok text

/-! ## Trees in memory -/

/-- A place in a file system: below the current directory, or elsewhere. -/
inductive Place where
  | inside (names : List String)
  | outside (names : List String)
  deriving Repr, DecidableEq

/-- A tree of files, each with the names on the way to it. -/
abbrev Tree := List (List String × List UInt8)

/-- What is at a place. -/
inductive Node where
  | file (bytes : List UInt8)
  | directory
  | missing

/-- The node at a place. Directories are the starts of the ways to files. -/
def Tree.node (tree : Tree) : Place → Node
  | .inside names =>
    match tree.lookup names with
    | some bytes => .file bytes
    | none =>
      if names.isEmpty ∨ tree.any fun file => names.isPrefixOf file.1 then .directory
      else .missing
  | .outside names => if names.isEmpty then .directory else .missing

/-- The place behind one more name. -/
def Place.step (name : String) : Place → Place
  | .inside names =>
    if name = ".." then
      if names.isEmpty then .outside [] else .inside names.dropLast
    else .inside (names ++ [name])
  | .outside names =>
    if name = ".." then .outside names.dropLast else .outside (names ++ [name])

/-- The most bytes that a name may have. -/
def maxNameLength : Nat := 255

/-- The most bytes that a path may have. -/
def maxPathLength : Nat := 4095

/-- Walks names from a place. -/
def Tree.walk (tree : Tree) (place : Place) : List String → Except ReadError Node
  | [] => .ok (tree.node place)
  | name :: rest =>
    match tree.node place with
    | .file _ => .error .notDirectory
    | .missing => .error .notFound
    | .directory =>
      if name.isEmpty ∨ name = "." then tree.walk place rest
      else if name.utf8ByteSize > maxNameLength then .error .nameTooLong
      else tree.walk (place.step name) rest

/-- Cuts a path at its slashes. -/
def pathNames (path : String) : List String :=
  (path.toList.splitOn '/').map String.ofList

/-- Reads the file at a path. -/
def Tree.read (tree : Tree) (path : String) : Except ReadError (List UInt8) :=
  if path.toList.contains '\x00' then .error .nulInPath
  else if path.isEmpty then .error .notFound
  else if path.utf8ByteSize > maxPathLength then .error .nameTooLong
  else
    let start := if path.toList.head? = some '/' then Place.outside [] else Place.inside []
    match tree.walk start (pathNames path) with
    | .error e => .error e
    | .ok .missing => .error .notFound
    | .ok .directory => .error .isDirectory
    | .ok (.file bytes) => .ok bytes

/-- Writes a file; what was there before is replaced. -/
def Tree.write (tree : Tree) (path : String) (bytes : List UInt8) : Tree :=
  let place := (pathNames path).foldl
    (fun place name => if name.isEmpty ∨ name = "." then place else place.step name)
    (Place.inside [])
  match place with
  | .inside names => (names, bytes) :: tree.filter (·.1 ≠ names)
  | .outside _ => tree

end Files

end Gatehouse
