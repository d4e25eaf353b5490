import LicenseExpr.Files.Path
import LicenseExpr.Text.Numeral
import LicenseExpr.Text.Quoted

/-!
# Trees of directories and files

A file tree holds directories with named entries and files with their bytes.
Opening a file walks down the tree along a path and can fail in four ways.
-/

namespace LicenseExpr

inductive FileTree where
  | file (content : List UInt8)
  | directory (entries : List (String × FileTree))

inductive OpenFault where
  | missing
  | notDirectory
  | isDirectory
  | nameTooLong
deriving DecidableEq

namespace OpenFault

def number : OpenFault → Nat
  | .missing => 2
  | .notDirectory => 20
  | .isDirectory => 21
  | .nameTooLong => 36

def description : OpenFault → String
  | .missing => "No such file or directory"
  | .notDirectory => "Not a directory"
  | .isDirectory => "Is a directory"
  | .nameTooLong => "File name too long"

def message (fault : OpenFault) (path : Path) : String :=
  "[Errno " ++ Text.integerText fault.number ++ "] " ++ fault.description ++ ": " ++
    Text.quote path.text

end OpenFault

namespace FileTree

def empty : FileTree :=
  .directory []

/-- What is at a location, given by the names on the way down. -/
def at? : FileTree → (location : List String) → Option FileTree
  | tree, [] => some tree
  | .file _, _ :: _ => none
  | .directory entries, name :: rest =>
      match entries.lookup name with
      | some child => child.at? rest
      | none => none

def isFile (tree : FileTree) (location : List String) : Bool :=
  match tree.at? location with
  | some (.file _) => true
  | _ => false

def putEntry (name : String) (tree : FileTree) :
    List (String × FileTree) → List (String × FileTree)
  | [] => [(name, tree)]
  | entry :: rest =>
      if entry.1 = name then (name, tree) :: rest else entry :: putEntry name tree rest

/-- The tree with a file or directory put at a location, and the directories above it made. A
directory that is there already stays. -/
def put (new : FileTree) : (location : List String) → FileTree → FileTree
  | [], old =>
      match new, old with
      | .directory [], .directory entries => .directory entries
      | _, _ => new
  | name :: rest, .directory entries =>
      .directory (putEntry name (put new rest ((entries.lookup name).getD empty)) entries)
  | name :: rest, .file _ => .directory [(name, put new rest empty)]

def nameLimit : Nat := 255

/-- The number of bytes from which on a path is too long. -/
def pathLimit : Nat := 4096

/-- Whether the way down to a location meets a name that is too long. -/
def meetsLongName : FileTree → (location : List String) → Bool
  | .directory entries, name :: rest =>
      name.utf8ByteSize > nameLimit ||
        match entries.lookup name with
        | some child => child.meetsLongName rest
        | none => false
  | _, _ => false

/-- Whether the system refuses to look what is at a location, since its path or a name on the way
down is too long. -/
def isOutOfReach (tree : FileTree) (location : List String) : Bool :=
  (Path.absolute location).text.utf8ByteSize ≥ pathLimit || tree.meetsLongName location

/-- Walks down, and up at two dots, from a place with the given directories above it, nearest
first. -/
def walk (above : List FileTree) (here : FileTree) : List String → Except OpenFault FileTree
  | [] => .ok here
  | name :: rest =>
      match here with
      | .file _ => .error .notDirectory
      | .directory entries =>
          if name = ".." then
            match above with
            | [] => walk [] here rest
            | parent :: others => walk others parent rest
          else if name.utf8ByteSize > nameLimit then .error .nameTooLong
          else
            match entries.lookup name with
            | some child => walk (here :: above) child rest
            | none => .error .missing

def read (tree : FileTree) (workingDirectory : List String) (path : Path) :
    Except OpenFault (List UInt8) :=
  if path.text.utf8ByteSize ≥ pathLimit then .error .nameTooLong
  else
    let start := if path.slashes = 0 then workingDirectory else []
    match walk [] tree (start ++ path.names) with
    | .ok (.file content) => .ok content
    | .ok (.directory _) => .error .isDirectory
    | .error fault => .error fault

end FileTree

end LicenseExpr
