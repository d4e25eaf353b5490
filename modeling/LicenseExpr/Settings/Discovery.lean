import LicenseExpr.Settings.LoadError

/-!
# Finding the settings file

Unless a file is named, the settings come from the nearest file
`licensekit.toml`: in the directory itself, or else in the nearest directory
above that has one. A directory of that name does not count. The search fails
where the system refuses to look for a candidate.
-/

namespace LicenseExpr.Settings

def fileName : String := "licensekit.toml"

def candidate (directory : List String) : List String :=
  directory ++ [fileName]

def nearest? (tree : FileTree) (location : List String) : Option (List String) :=
  ((Path.ancestors location).map candidate).find? tree.isFile

/-- The nearest settings file at or above the place that a path names. -/
def discover? (tree : FileTree) (workingDirectory : List String) (start : Path) : Option Path :=
  (nearest? tree (start.resolve workingDirectory)).map Path.absolute

/-- Looks for a settings file in one directory after the other. -/
def search (tree : FileTree) : (directories : List (List String)) →
    Except LoadError (Option Path)
  | [] => .ok none
  | directory :: others =>
      match tree.isOutOfReach (candidate directory), tree.isFile (candidate directory) with
      | true, _ => .error (.nameTooLong (Path.absolute (candidate directory)))
      | false, true => .ok (some (Path.absolute (candidate directory)))
      | false, false => search tree others

/-- Searches the place that a path names and all directories above it. -/
def locate (tree : FileTree) (workingDirectory : List String) (start : Path) :
    Except LoadError (Option Path) :=
  if start.holdsNull then .error .nullInPath
  else search tree (Path.ancestors (start.resolve workingDirectory))

variable {tree : FileTree} {directories : List (List String)} {workingDirectory : List String}
  {start : Path} {found : Option Path}

theorem eq_find?_of_search (searched : search tree directories = .ok found) :
    found = ((directories.map candidate).find? tree.isFile).map Path.absolute := by
  induction directories with
  | nil => cases searched; rfl
  | cons directory others ih =>
      rw [search] at searched
      split at searched
      case h_1 => cases searched
      case h_2 isFile =>
        cases searched
        simp [isFile]
      case h_3 isFile => simp [isFile, ih searched]

theorem eq_discover?_of_locate (located : locate tree workingDirectory start = .ok found) :
    found = discover? tree workingDirectory start := by
  rw [locate] at located
  split at located
  case isTrue => cases located
  case isFalse => exact eq_find?_of_search located

end LicenseExpr.Settings
