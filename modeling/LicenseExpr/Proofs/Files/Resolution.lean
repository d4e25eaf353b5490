import LicenseExpr.Files.Path

/-!
# Where paths lead

A path is followed component by component, from the root if it begins with a
slash and else from the working directory.  The files that are there have no
part in it: two dots lead back over whatever component stands before them.
`Leads` says where components lead, and `leads_iff` that a path is resolved to
just this location.
-/

namespace LicenseExpr.Path

variable {chars piece component : List Char} {components : List (List Char)}
  {here location names : List String} {text : String}

/-! ## The components of a text -/

theorem pieces_eq_splitOn (chars : List Char) : pieces chars = chars.splitOn '/' := by
  induction chars with
  | nil => rfl
  | cons char chars ih =>
      by_cases slash : char = '/'
      · subst slash
        rw [pieces, ih]
        simp [List.splitOn, List.splitOnP_cons_eq_if_modifyHead]
      · obtain ⟨first, others, split⟩ :=
          List.exists_cons_of_ne_nil (List.splitOnP_ne_nil (· == '/') chars)
        simp only [List.splitOn] at ih ⊢
        simp [pieces, ih, split, List.splitOnP_cons_eq_if_modifyHead, slash]

theorem mem_iff_exists_mem_pieces {char : Char} (other : char ≠ '/') :
    char ∈ chars ↔ ∃ piece ∈ pieces chars, char ∈ piece := by
  induction chars with
  | nil => simp [pieces]
  | cons first chars ih =>
      by_cases slash : first = '/'
      · subst slash
        simp [pieces, ih, other]
      · cases split : pieces chars with
        | nil => simp_all [pieces]
        | cons piece others => simp_all [pieces, or_assoc]

/-- Empty components and single dots are no names. -/
def IsVoid (component : List Char) : Prop :=
  component = [] ∨ component = ['.']

theorem mem_names_ofText {name : String} :
    name ∈ (ofText text).names ↔ name.toList ∈ pieces text.toList ∧ ¬ IsVoid name.toList := by
  simp only [ofText, IsVoid, List.mem_map, List.mem_filter]
  constructor
  · rintro ⟨piece, ⟨isPiece, named⟩, rfl⟩
    simpa [isPiece] using named
  · rintro ⟨isPiece, named⟩
    exact ⟨name.toList, ⟨isPiece, by simpa using named⟩, String.ofList_toList⟩

theorem holdsNull_ofText_iff : (ofText text).holdsNull = true ↔ '\x00' ∈ text.toList := by
  rw [holdsNull, List.any_eq_true, mem_iff_exists_mem_pieces (by decide)]
  constructor
  · rintro ⟨name, isName, null⟩
    exact ⟨name.toList, (mem_names_ofText.mp isName).1, by simpa using null⟩
  · rintro ⟨piece, isPiece, null⟩
    refine ⟨String.ofList piece, mem_names_ofText.mpr ⟨by simpa using isPiece, ?_⟩, by simpa⟩
    rintro (void | void) <;> simp_all

theorem slashes_ofText_eq_zero_iff :
    (ofText text).slashes = 0 ↔ text.toList.head? ≠ some '/' := by
  cases chars : text.toList with
  | nil => simp [ofText, chars]
  | cons first others =>
      by_cases slash : first = '/'
      · simp only [ofText, chars, slash, List.takeWhile_cons, BEq.rfl, if_true, List.length_cons,
          List.head?_cons]
        split <;> simp
      · simp [ofText, chars, slash]

/-! ## Following components -/

/-- Components lead from one location to another.  Two dots lead to the directory above, and at
the root they stay there; a name leads to what has this name, whether anything has it or not. -/
inductive Leads : List String → List (List Char) → List String → Prop where
  | arrived (here : List String) : Leads here [] here
  | stay {here there : List String} {component : List Char} {later : List (List Char)}
      (void : IsVoid component) (leads : Leads here later there) :
      Leads here (component :: later) there
  | up {above there : List String} {name : String} {later : List (List Char)}
      (leads : Leads above later there) : Leads (above ++ [name]) (['.', '.'] :: later) there
  | root {there : List String} {later : List (List Char)} (leads : Leads [] later there) :
      Leads [] (['.', '.'] :: later) there
  | down {here there : List String} {component : List Char} {later : List (List Char)}
      (named : ¬ IsVoid component) (notUp : component ≠ ['.', '.'])
      (leads : Leads (here ++ [String.ofList component]) later there) :
      Leads here (component :: later) there

/-- The names among some components. -/
def namesOf (components : List (List Char)) : List String :=
  (components.filter fun piece => piece != [] && piece != ['.']).map String.ofList

theorem namesOf_void (void : IsVoid component) :
    namesOf (component :: components) = namesOf components := by
  rcases void with rfl | rfl <;> simp [namesOf]

theorem namesOf_cons (named : ¬ IsVoid component) :
    namesOf (component :: components) = String.ofList component :: namesOf components := by
  simp_all [namesOf, IsVoid]

theorem ofList_ne_dots (notUp : component ≠ ['.', '.']) : String.ofList component ≠ ".." :=
  fun same => notUp (by simpa using congrArg String.toList same)

theorem leads_foldl (here : List String) (components : List (List Char)) :
    Leads here components ((namesOf components).foldl descend here) := by
  induction components generalizing here with
  | nil => exact .arrived here
  | cons component components ih =>
      by_cases void : IsVoid component
      · rw [namesOf_void void]
        exact .stay void (ih here)
      rw [namesOf_cons void, List.foldl_cons]
      by_cases up : component = ['.', '.']
      · subst up
        rw [descend, if_pos rfl]
        rcases List.eq_nil_or_concat here with rfl | ⟨above, name, rfl⟩
        · exact .root (ih [])
        · rw [List.concat_eq_append, List.dropLast_concat]
          exact .up (ih above)
      · rw [descend, if_neg (ofList_ne_dots up)]
        exact .down void up (ih _)

theorem Leads.eq_foldl (leads : Leads here components location) :
    location = (namesOf components).foldl descend here := by
  induction leads with
  | arrived => rfl
  | stay void leads ih => rw [namesOf_void void, ih]
  | up leads ih =>
      rw [namesOf_cons (by simp [IsVoid]), List.foldl_cons, descend, if_pos rfl,
        List.dropLast_concat, ih]
  | root leads ih =>
      rw [namesOf_cons (by simp [IsVoid]), List.foldl_cons, descend, if_pos rfl,
        List.dropLast_nil, ih]
  | down named notUp leads ih =>
      rw [namesOf_cons named, List.foldl_cons, descend, if_neg (ofList_ne_dots notUp), ih]

/-- The location that a text names as a path is where its components lead. -/
theorem leads_iff {workingDirectory : List String} :
    Leads (if text.toList.head? = some '/' then [] else workingDirectory)
        (text.toList.splitOn '/') location ↔
      location = (ofText text).resolve workingDirectory := by
  have resolved : (ofText text).resolve workingDirectory =
      (namesOf (text.toList.splitOn '/')).foldl descend
        (if text.toList.head? = some '/' then [] else workingDirectory) := by
    simp only [resolve, slashes_ofText_eq_zero_iff, ← pieces_eq_splitOn, ite_not]
    rfl
  rw [resolved]
  exact ⟨Leads.eq_foldl, by rintro rfl; exact leads_foldl _ _⟩

end LicenseExpr.Path
