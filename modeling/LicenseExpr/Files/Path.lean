/-!
# Paths

A path is a list of names, absolute or relative to a working directory. Empty
names and single dots do not count; two dots stand for the directory above.
-/

namespace LicenseExpr

structure Path where
  /-- The slashes in front: none for a relative path, and one or two for an absolute one. -/
  slashes : Nat
  names : List String
deriving DecidableEq

namespace Path

def pieces : List Char → List (List Char)
  | [] => [[]]
  | '/' :: rest => [] :: pieces rest
  | char :: rest =>
      match pieces rest with
      | [] => [[char]]
      | first :: others => (char :: first) :: others

/-- The path that a text stands for. Only exactly two slashes in front are kept as two. -/
def ofText (text : String) : Path :=
  let slashes := (text.toList.takeWhile (· == '/')).length
  let names := (pieces text.toList).filter fun piece => piece != [] && piece != ['.']
  ⟨if slashes > 2 then 1 else slashes, names.map String.ofList⟩

def absolute (names : List String) : Path :=
  ⟨1, names⟩

/-- A path as text; the path without names is a dot. -/
def text (path : Path) : String :=
  if path.slashes = 0 ∧ path.names = [] then "."
  else String.ofList (List.replicate path.slashes '/') ++ "/".intercalate path.names

def lastName (path : Path) : String :=
  path.names.getLast?.getD ""

def descend (location : List String) (name : String) : List String :=
  if name = ".." then location.dropLast else location ++ [name]

/-- Whether a name in the path holds a null character, which no file system can take. -/
def holdsNull (path : Path) : Bool :=
  path.names.any (·.toList.contains '\x00')

/-- The location that a path names, from the root down, whether anything is there or not. -/
def resolve (workingDirectory : List String) (path : Path) : List String :=
  path.names.foldl descend (if path.slashes = 0 then workingDirectory else [])

/-- A location and all directories above it, nearest first. -/
def ancestors (location : List String) : List (List String) :=
  (List.range (location.length + 1)).reverse.map location.take

end Path

end LicenseExpr
