import Mathlib.Data.List.Induction
import Mathlib.Data.String.Basic
import LicenseExpr.Proofs.Files.Resolution
import LicenseExpr.Settings.Discovery

/-!
# The nearest settings file

The search for a settings file asks about one candidate in the place where it
starts and in each directory above.  It finds the candidate in the deepest of
these directories where it is a regular file; a directory of that name is
passed over, and nothing else in the file tree has a part in the result.

The search fails where its first candidate is out of reach: its path has too
many bytes, or a name with too many stands below a directory that is there.  A
candidate further up is out of reach only if the first one is.
-/

namespace LicenseExpr

namespace FileTree

variable {tree : FileTree} {location : List String}

/-- The path of a location is too long, or a name on the way down to it that would have to be
looked up. -/
def TooLong (tree : FileTree) (location : List String) : Prop :=
  pathLimit ≤ (Path.absolute location).text.utf8ByteSize ∨
    ∃ above name below entries, location = above ++ name :: below ∧
      nameLimit < name.utf8ByteSize ∧ tree.at? above = some (.directory entries)

theorem meetsLongName_iff : tree.meetsLongName location = true ↔
    ∃ above name below entries, location = above ++ name :: below ∧
      nameLimit < name.utf8ByteSize ∧ tree.at? above = some (.directory entries) := by
  induction location generalizing tree with
  | nil => cases tree <;> simp [meetsLongName]
  | cons first rest ih =>
      cases tree with
      | file content =>
          simp only [meetsLongName, Bool.false_eq_true, false_iff]
          rintro ⟨_ | ⟨_, _⟩, _, _, _, -, -, isDirectory⟩ <;> simp [at?] at isDirectory
      | directory entries =>
          constructor
          · intro meets
            rw [meetsLongName, Bool.or_eq_true, decide_eq_true_eq] at meets
            rcases meets with long | meets
            · exact ⟨[], first, rest, entries, rfl, long, rfl⟩
            · cases found : entries.lookup first with
              | none => simp [found] at meets
              | some child =>
                  rw [found] at meets
                  obtain ⟨above, name, below, inner, rfl, long, isDirectory⟩ := ih.mp meets
                  exact ⟨first :: above, name, below, inner, rfl, long, by
                    simpa [at?, found] using isDirectory⟩
          · rintro ⟨_ | ⟨_, above⟩, name, below, inner, same, long, isDirectory⟩
            · cases same
              simp [meetsLongName, long]
            · cases same
              cases found : entries.lookup first with
              | none => simp [at?, found] at isDirectory
              | some child =>
                  have meets : child.meetsLongName (above ++ name :: below) = true :=
                    ih.mpr ⟨above, name, below, inner, rfl, long, by
                      simpa [at?, found] using isDirectory⟩
                  simp [meetsLongName, found, meets]

theorem isOutOfReach_iff : tree.isOutOfReach location = true ↔ tree.TooLong location := by
  rw [isOutOfReach, Bool.or_eq_true, meetsLongName_iff, decide_eq_true_eq, TooLong]

end FileTree

namespace Path

variable {location above : List String}

theorem ancestors_nil : ancestors [] = [[]] := rfl

theorem ancestors_concat (above : List String) (name : String) :
    ancestors (above ++ [name]) = (above ++ [name]) :: ancestors above := by
  have upTo : ∀ length ∈ (List.range (above.length + 1)).reverse,
      (above ++ [name]).take length = above.take length := by
    intro length member
    simp only [List.mem_reverse, List.mem_range] at member
    exact List.take_append_of_le_length (by omega)
  rw [ancestors, List.length_append, List.length_singleton, List.range_succ, List.reverse_append,
    List.reverse_singleton, List.singleton_append, List.map_cons, List.map_congr_left upTo,
    List.take_of_length_le (by simp), ancestors]

theorem utf8ByteSize_text_le (above : List String) (name last : String) :
    (absolute (above ++ [last])).text.utf8ByteSize ≤
      (absolute (above ++ [name] ++ [last])).text.utf8ByteSize := by
  have intercalated : ("/".intercalate (above ++ [last])).utf8ByteSize ≤
      ("/".intercalate (above ++ [name, last])).utf8ByteSize := by
    induction above with
    | nil => simp [String.utf8ByteSize_append]
    | cons first above ih =>
        rw [List.cons_append, List.cons_append, String.intercalate_cons_of_ne_nil (by simp),
          String.intercalate_cons_of_ne_nil (by simp)]
        simp only [String.utf8ByteSize_append]
        omega
  simpa [text, absolute, String.utf8ByteSize_append] using intercalated

end Path

namespace Settings

variable {tree other : FileTree} {above location directory workingDirectory : List String}
  {found : Option Path} {path start : Path}

/-! ## The deepest candidate -/

/-- A directory has a regular file with the name of settings files. -/
def HasSettings (tree : FileTree) (directory : List String) : Prop :=
  ∃ content, tree.at? (candidate directory) = some (.file content)

/-- The deepest directory with a settings file, of a location and the directories above it. -/
structure IsNearest (tree : FileTree) (location directory : List String) : Prop where
  above : directory <+: location
  hasSettings : HasSettings tree directory
  deepest : ∀ other, other <+: location → HasSettings tree other →
    other.length ≤ directory.length

theorem isFile_candidate_iff :
    tree.isFile (candidate directory) = true ↔ HasSettings tree directory := by
  rw [FileTree.isFile, HasSettings]
  split <;> simp_all

theorem IsNearest.unique {other : List String} (nearest : IsNearest tree location directory)
    (otherNearest : IsNearest tree location other) : directory = other := by
  have sameLength : directory.length = other.length :=
    Nat.le_antisymm (otherNearest.deepest directory nearest.above nearest.hasSettings)
      (nearest.deepest other otherNearest.above otherNearest.hasSettings)
  rw [List.prefix_iff_eq_take.mp nearest.above, List.prefix_iff_eq_take.mp otherNearest.above,
    sameLength]

theorem isNearest_self (has : HasSettings tree location) : IsNearest tree location location :=
  ⟨List.prefix_rfl, has, fun _ isAbove _ => isAbove.length_le⟩

theorem IsNearest.concat {name : String} (nearest : IsNearest tree above directory)
    (none : ¬ HasSettings tree (above ++ [name])) :
    IsNearest tree (above ++ [name]) directory := by
  refine ⟨nearest.above.trans (List.prefix_append ..), nearest.hasSettings, ?_⟩
  intro other isAbove has
  rcases List.prefix_concat_iff.mp isAbove with rfl | isAbove
  · exact absurd has none
  · exact nearest.deepest other isAbove has

theorem IsNearest.congr (same : ∀ directory, directory <+: location →
      (HasSettings other directory ↔ HasSettings tree directory))
    (nearest : IsNearest tree location directory) : IsNearest other location directory :=
  ⟨nearest.above, (same _ nearest.above).mpr nearest.hasSettings,
    fun _ isAbove has => nearest.deepest _ isAbove ((same _ isAbove).mp has)⟩

/-! ## The search -/

/-- What makes a candidate out of reach is still in the way further down. -/
theorem tooLong_candidate_concat (name : String) (tooLong : tree.TooLong (candidate above)) :
    tree.TooLong (candidate (above ++ [name])) := by
  rcases tooLong with longPath | ⟨start, long, below, entries, same, isLong, isDirectory⟩
  · exact .inl (Nat.le_trans longPath (Path.utf8ByteSize_text_le above name fileName))
  · rcases List.eq_nil_or_concat below with rfl | ⟨below, last, rfl⟩
    · -- The name of settings files itself is short.
      obtain ⟨-, sameName⟩ := List.append_inj' same rfl
      obtain rfl := List.singleton_inj.mp sameName
      exact absurd isLong (by decide +kernel)
    · rw [candidate, List.concat_eq_append, ← List.cons_append, ← List.append_assoc] at same
      obtain ⟨rfl, -⟩ := List.append_inj' same rfl
      exact .inr ⟨start, long, below ++ [name, fileName], entries, by simp [candidate], isLong,
        isDirectory⟩

theorem search_cons_of_tooLong {others : List (List String)}
    (tooLong : tree.TooLong (candidate directory)) :
    search tree (directory :: others) =
      .error (.nameTooLong (Path.absolute (candidate directory))) := by
  rw [search, FileTree.isOutOfReach_iff.mpr tooLong]

theorem search_cons_of_hasSettings {others : List (List String)}
    (inReach : ¬ tree.TooLong (candidate directory)) (has : HasSettings tree directory) :
    search tree (directory :: others) = .ok (some (Path.absolute (candidate directory))) := by
  rw [← FileTree.isOutOfReach_iff, Bool.not_eq_true] at inReach
  rw [search, inReach, isFile_candidate_iff.mpr has]

theorem search_cons_of_not_hasSettings {others : List (List String)}
    (inReach : ¬ tree.TooLong (candidate directory)) (none : ¬ HasSettings tree directory) :
    search tree (directory :: others) = search tree others := by
  rw [← FileTree.isOutOfReach_iff, Bool.not_eq_true] at inReach
  rw [← isFile_candidate_iff, Bool.not_eq_true] at none
  rw [search, inReach, none]

theorem search_ancestors_of_tooLong (tooLong : tree.TooLong (candidate location)) :
    search tree (Path.ancestors location) =
      .error (.nameTooLong (Path.absolute (candidate location))) := by
  rcases List.eq_nil_or_concat location with rfl | ⟨above, name, rfl⟩
  · exact search_cons_of_tooLong tooLong
  · rw [List.concat_eq_append] at tooLong ⊢
    rw [Path.ancestors_concat, search_cons_of_tooLong tooLong]

/-- What the search finds at a location and above it. -/
inductive Finds (tree : FileTree) (location : List String) : Option Path → Prop where
  | nearest {directory : List String} (nearest : IsNearest tree location directory) :
      Finds tree location (some (Path.absolute (candidate directory)))
  | nothing (nowhere : ∀ directory, directory <+: location → ¬ HasSettings tree directory) :
      Finds tree location none

theorem Finds.concat {name : String} (finds : Finds tree above found)
    (noFile : ¬ HasSettings tree (above ++ [name])) : Finds tree (above ++ [name]) found := by
  cases finds with
  | nearest nearest => exact .nearest (nearest.concat noFile)
  | nothing nowhere =>
      refine .nothing fun directory isAbove => ?_
      rcases List.prefix_concat_iff.mp isAbove with rfl | isAbove
      · exact noFile
      · exact nowhere directory isAbove

theorem exists_search_ancestors (inReach : ¬ tree.TooLong (candidate location)) :
    ∃ found, search tree (Path.ancestors location) = .ok found ∧ Finds tree location found := by
  induction location using List.reverseRecOn with
  | nil =>
      rw [Path.ancestors_nil]
      by_cases has : HasSettings tree []
      · exact ⟨_, search_cons_of_hasSettings inReach has, .nearest (isNearest_self has)⟩
      · refine ⟨none, search_cons_of_not_hasSettings inReach has, .nothing ?_⟩
        rintro directory isAbove
        rwa [List.prefix_nil.mp isAbove]
  | append_singleton above name ih =>
      rw [Path.ancestors_concat]
      by_cases has : HasSettings tree (above ++ [name])
      · exact ⟨_, search_cons_of_hasSettings inReach has, .nearest (isNearest_self has)⟩
      · rw [search_cons_of_not_hasSettings inReach has]
        obtain ⟨found, searched, finds⟩ := ih (mt (tooLong_candidate_concat name) inReach)
        exact ⟨found, searched, finds.concat has⟩

theorem Finds.unique {otherFound : Option Path} (finds : Finds tree location found)
    (otherFinds : Finds tree location otherFound) : found = otherFound := by
  cases finds with
  | nearest nearest =>
      cases otherFinds with
      | nearest otherNearest => rw [nearest.unique otherNearest]
      | nothing nowhere => exact absurd nearest.hasSettings (nowhere _ nearest.above)
  | nothing nowhere =>
      cases otherFinds with
      | nearest otherNearest =>
          exact absurd otherNearest.hasSettings (nowhere _ otherNearest.above)
      | nothing => rfl

theorem Finds.congr (same : ∀ directory, directory <+: location →
      (HasSettings other directory ↔ HasSettings tree directory))
    (finds : Finds tree location found) : Finds other location found := by
  cases finds with
  | nearest nearest => exact .nearest (nearest.congr same)
  | nothing nowhere =>
      exact .nothing fun directory isAbove => mt (same directory isAbove).mp
        (nowhere directory isAbove)

theorem finds_some_iff : Finds tree location (some path) ↔
    ∃ directory, IsNearest tree location directory ∧
      path = Path.absolute (candidate directory) := by
  constructor
  · rintro (nearest | _)
    exact ⟨_, nearest, rfl⟩
  · rintro ⟨directory, nearest, rfl⟩
    exact .nearest nearest

theorem finds_none_iff : Finds tree location none ↔
    ∀ directory, directory <+: location → ¬ HasSettings tree directory := by
  constructor
  · rintro (_ | nowhere)
    exact nowhere
  · exact .nothing

theorem locate_of_usable (usable : start.holdsNull = false) :
    locate tree workingDirectory start =
      search tree (Path.ancestors (start.resolve workingDirectory)) := by
  rw [locate, usable]
  rfl

theorem locate_eq_ok_iff (usable : start.holdsNull = false)
    (inReach : ¬ tree.TooLong (candidate (start.resolve workingDirectory))) :
    locate tree workingDirectory start = .ok found ↔
      Finds tree (start.resolve workingDirectory) found := by
  obtain ⟨searched, isSearched, finds⟩ := exists_search_ancestors inReach
  rw [locate_of_usable usable, isSearched, Except.ok.injEq]
  exact ⟨by rintro rfl; exact finds, finds.unique⟩

/-! ## Main results -/

/-- A path is resolved by its components alone.  If it can be looked up, the search from there
finds the settings file in the deepest directory that has one, of the location and the directories
above it, and it finds none exactly if there is none; nothing else in the tree has a part in the
result.  It fails exactly for a path with a null character and for a location whose candidate is
out of reach, and the failure names this candidate. -/
theorem locate_nearest_file (tree : FileTree) (workingDirectory : List String) (start : String) :
    ∃ location,
      (∀ other, Path.Leads (if start.toList.head? = some '/' then [] else workingDirectory)
        (start.toList.splitOn '/') other ↔ other = location) ∧
      ('\x00' ∈ start.toList →
        locate tree workingDirectory (Path.ofText start) = .error .nullInPath) ∧
      ('\x00' ∉ start.toList → tree.TooLong (candidate location) →
        locate tree workingDirectory (Path.ofText start) =
          .error (.nameTooLong (Path.absolute (candidate location)))) ∧
      ('\x00' ∉ start.toList → ¬ tree.TooLong (candidate location) →
        (∃ found, locate tree workingDirectory (Path.ofText start) = .ok found) ∧
        (∀ path, locate tree workingDirectory (Path.ofText start) = .ok (some path) ↔
          ∃ directory, IsNearest tree location directory ∧
            path = Path.absolute (candidate directory)) ∧
        (locate tree workingDirectory (Path.ofText start) = .ok none ↔
          ∀ directory, directory <+: location → ¬ HasSettings tree directory) ∧
        ∀ other : FileTree, ¬ other.TooLong (candidate location) →
          (∀ directory, directory <+: location →
            (HasSettings other directory ↔ HasSettings tree directory)) →
          locate other workingDirectory (Path.ofText start) =
            locate tree workingDirectory (Path.ofText start)) := by
  refine ⟨(Path.ofText start).resolve workingDirectory, fun other => Path.leads_iff, ?_, ?_, ?_⟩
  · intro null
    rw [locate, if_pos (Path.holdsNull_ofText_iff.mpr null)]
  all_goals
    intro noNull
    have usable : (Path.ofText start).holdsNull = false := by
      rwa [← Path.holdsNull_ofText_iff, Bool.not_eq_true] at noNull
  · intro tooLong
    rw [locate_of_usable usable, search_ancestors_of_tooLong tooLong]
  · intro inReach
    obtain ⟨found, isFound, finds⟩ := exists_search_ancestors inReach
    rw [← locate_of_usable usable] at isFound
    refine ⟨⟨found, isFound⟩, fun path => ?_, ?_, fun other otherInReach same => ?_⟩
    · rw [locate_eq_ok_iff usable inReach, finds_some_iff]
    · rw [locate_eq_ok_iff usable inReach, finds_none_iff]
    · rw [isFound, locate_eq_ok_iff usable otherInReach]
      exact finds.congr same

/-- From a place below a file, which two dots lead back over, the search goes past a directory that
is named like a settings file up to the root. -/
theorem locate_past_directory :
    locate (.directory [("a", .directory [("licensekit.toml", .directory []), ("b", .file [])]),
        ("licensekit.toml", .file [])]) ["a"] (Path.ofText "b/c/.././/../../a/b") =
      .ok (some (Path.absolute ["licensekit.toml"])) := by
  obtain ⟨location, leads, -, -, answers⟩ := locate_nearest_file (.directory
    [("a", .directory [("licensekit.toml", .directory []), ("b", .file [])]),
      ("licensekit.toml", .file [])]) ["a"] "b/c/.././/../../a/b"
  have resolved : ["a", "b"] = (Path.ofText "b/c/.././/../../a/b").resolve ["a"] := by
    decide +kernel
  obtain rfl := (leads _).mp (Path.leads_iff.mpr resolved)
  have noNull : '\x00' ∉ "b/c/.././/../../a/b".toList := by decide +kernel
  have inReach : FileTree.isOutOfReach (.directory
      [("a", .directory [("licensekit.toml", .directory []), ("b", .file [])]),
        ("licensekit.toml", .file [])]) (candidate ["a", "b"]) = false := by
    decide +kernel
  obtain ⟨-, isFound, -⟩ := answers noNull (by rw [← FileTree.isOutOfReach_iff, inReach]; simp)
  refine (isFound _).mpr ⟨[], ⟨List.nil_prefix, ⟨[], rfl⟩, fun other isAbove has => ?_⟩, rfl⟩
  rw [← isFile_candidate_iff] at has
  obtain rfl | ⟨rest, rfl, rfl | rfl⟩ :
      other = [] ∨ ∃ rest, other = "a" :: rest ∧ (rest = [] ∨ rest = ["b"]) := by
    simpa [List.prefix_cons_iff] using isAbove
  · exact Nat.le_refl _
  · cases has
  · cases has

/-- There is a settings file in the directory above a path with a null character, but the search
that starts at this path fails. -/
theorem null_character_not_answered :
    (Path.ofText "a\x00b").resolve [] = ["a\x00b"] ∧
    IsNearest (.directory [("licensekit.toml", .file [])]) ["a\x00b"] [] ∧
    locate (.directory [("licensekit.toml", .file [])]) [] (Path.ofText "a\x00b") =
      .error .nullInPath ∧
    ¬∀ (tree : FileTree) (workingDirectory : List String) (start : String),
      ∃ found, locate tree workingDirectory (Path.ofText start) = .ok found := by
  have holdsNull : (Path.ofText "a\x00b").holdsNull = true :=
    Path.holdsNull_ofText_iff.mpr (by decide +kernel)
  have fails : locate (.directory [("licensekit.toml", .file [])]) [] (Path.ofText "a\x00b") =
      .error .nullInPath := by
    rw [locate, if_pos holdsNull]
  refine ⟨by decide +kernel, ⟨List.nil_prefix, ⟨[], rfl⟩, fun other isAbove has => ?_⟩, fails,
    fun always => ?_⟩
  · rw [← isFile_candidate_iff] at has
    obtain rfl | rfl : other = [] ∨ other = ["a\x00b"] := by
      simpa [List.prefix_cons_iff] using isAbove
    · exact Nat.le_refl _
    · cases has
  · obtain ⟨found, answered⟩ := always _ _ _
    cases fails.symm.trans answered

end Settings

end LicenseExpr
