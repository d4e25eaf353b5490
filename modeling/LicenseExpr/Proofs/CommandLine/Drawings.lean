import Mathlib.Data.List.DropRight
import LicenseExpr.Proofs.CommandLine.Verbatim
import LicenseExpr.Proofs.Tree.View

/-!
# Drawings read back

In a drawing every line ends in a label, behind a guide of four characters for
each level.  Labels of parsed expressions hold no spaces and a guide ends in
one, so the last space of a line tells where its label begins and how deep it
stands, whatever characters the label imitates.  Only the first line of a
drawing has no guide, which tells one drawing from the next.  Hence what is
drawn of some expressions determines how many they are and, up to bells and
backspaces, what each of them stands for.
-/

namespace LicenseExpr

open LicenseExpr.Text

/-! ## Lines -/

namespace Outline

variable {depth : Nat} {guide segment label first below : List Char} {tree : Tree}

/-- What stands in front of a label at some depth: four characters for each level, of which the
last is a space. -/
structure IsGuide (depth : Nat) (guide : List Char) : Prop where
  length_eq : guide.length = 4 * depth
  last_eq : ∀ char ∈ guide.getLast?, char = ' '

theorem isGuide_nil : IsGuide 0 [] := ⟨rfl, by simp⟩

theorem IsGuide.append (isGuide : IsGuide depth guide) (four : segment.length = 4)
    (last : segment.getLast? = some ' ') : IsGuide (depth + 1) (guide ++ segment) := by
  constructor
  · rw [List.length_append, isGuide.length_eq, four, Nat.mul_succ]
  · simp [List.getLast?_append, last]

/-- The depth and the label of a line: its label begins behind the last space. -/
def entry (line : List Char) : Nat × List Char :=
  ((line.rdropWhile (· != ' ')).length / 4, line.rtakeWhile (· != ' '))

theorem entry_append (isGuide : IsGuide depth guide) (noSpace : ' ' ∉ label) :
    entry (guide ++ label) = (depth, label) := by
  -- From the right: the label is passed over, and the guide stops at its last character.
  induction label using List.reverseRecOn with
  | nil =>
      rw [List.append_nil, entry]
      rcases List.eq_nil_or_concat guide with rfl | ⟨front, last, rfl⟩
      · have atRoot := isGuide.length_eq
        simp only [List.length_nil] at atRoot
        simp
        omega
      · have space : last = ' ' := isGuide.last_eq last (by simp)
        have length := isGuide.length_eq
        rw [List.concat_eq_append] at length ⊢
        rw [List.rdropWhile_concat_neg _ _ _ (by simp [space]),
          List.rtakeWhile_concat_neg _ _ _ (by simp [space]), length,
          Nat.mul_div_cancel_left _ (by decide)]
  | append_singleton front last ih =>
      rw [List.mem_append, List.mem_singleton, not_or] at noSpace
      have differs : (last != ' ') = true := bne_iff_ne.mpr (Ne.symm noSpace.2)
      have frontEntry := ih noSpace.1
      rw [entry, Prod.mk.injEq] at frontEntry
      rw [← List.append_assoc, entry, List.rdropWhile_concat_pos (· != ' ') _ _ differs,
        List.rtakeWhile_concat_pos (· != ' ') _ _ differs, frontEntry.1, frontEntry.2]

/-- The lines of a tree without spaces show its operators and identifiers from top to bottom, each
with its depth. -/
theorem map_entry_lines (spaceless : ∀ text ∈ tree.texts, ' ' ∉ text.toList)
    (atFirst : IsGuide depth first) (atBelow : IsGuide depth below) :
    (lines first below tree.outline).map entry = tree.preorder depth := by
  induction tree generalizing depth first below with
  | identifier text =>
      have noSpace : ' ' ∉ withoutControls text.toList := fun space =>
        spaceless text (List.mem_singleton_self text) (List.mem_filter.mp space).1
      rw [lines_identifier, List.map_singleton, entry_append atFirst noSpace, Tree.preorder]
  | compound operator left right leftIH rightIH =>
      obtain ⟨leftSpaceless, rightSpaceless⟩ := List.forall_mem_append.mp spaceless
      have noSpace : ' ' ∉ operator.keyword.toList := by cases operator <;> decide
      rw [lines_compound, List.map_cons, List.map_append, entry_append atFirst noSpace,
        leftIH leftSpaceless (atBelow.append (by decide) (by decide))
          (atBelow.append (by decide) (by decide)),
        rightIH rightSpaceless (atBelow.append (by decide) (by decide))
          (atBelow.append (by decide) (by decide)), Tree.preorder]

end Outline

/-! ## Drawings of one expression -/

namespace Tree

variable {first second tree : Tree}

theorem IsUnbroken.spaceless (unbroken : tree.IsUnbroken) :
    ∀ text ∈ tree.texts, ' ' ∉ text.toList := by
  intro text member space
  cases unbroken text member ' ' space

theorem IsUnbroken.mapTexts_eq (unbroken : tree.IsUnbroken) :
    tree.mapTexts withoutCursorMoves = tree.mapTexts withoutSignals := by
  apply mapTexts_congr
  intro text member
  have spaced : IsSpaced text.toList := by
    intro char inText blank
    obtain ⟨notBlank, -⟩ := Token.isRunChar_iff.mp (unbroken text member char inText)
    rw [blank] at notBlank
    cases notBlank
  rw [← String.toList_inj, toList_withoutSignals spaced, withoutCursorMoves, String.toList_ofList]

theorem IsUnbroken.lines_eq_iff (firstUnbroken : first.IsUnbroken)
    (secondUnbroken : second.IsUnbroken) :
    Outline.lines [] [] first.outline = Outline.lines [] [] second.outline ↔
      first.mapTexts withoutSignals = second.mapTexts withoutSignals := by
  rw [← firstUnbroken.mapTexts_eq, ← secondUnbroken.mapTexts_eq]
  constructor
  · intro same
    have sameEntries := congrArg (List.map Outline.entry) same
    rw [Outline.map_entry_lines firstUnbroken.spaceless Outline.isGuide_nil Outline.isGuide_nil,
      Outline.map_entry_lines secondUnbroken.spaceless Outline.isGuide_nil Outline.isGuide_nil,
      ← Outline.view_outline, ← Outline.view_outline] at sameEntries
    exact Outline.view_outline_eq_iff.mp sameEntries
  · intro same
    rw [← Outline.outline_mapTexts first, ← Outline.outline_mapTexts second, same]

end Tree

/-- The expression with all its identifiers changed. -/
def Expression.mapTexts (change : String → String) : Expression → Expression
  | .invalid => .invalid
  | .valid tree => .valid (tree.mapTexts change)

/-- Unbroken expressions are drawn alike exactly if both are invalid, or if their trees differ in
nothing but bells and backspaces. -/
theorem Expression.IsUnbroken.drawn_eq_iff {expression other : Expression}
    (unbroken : expression.IsUnbroken) (otherUnbroken : other.IsUnbroken) :
    expression.drawn = other.drawn ↔
      expression.mapTexts withoutSignals = other.mapTexts withoutSignals := by
  have invalidDrawn : Expression.invalid.drawn = [Expression.invalidText.toList] := rfl
  cases expression with
  | invalid =>
      cases other with
      | invalid => exact iff_of_true rfl rfl
      | valid otherTree =>
          have onlyInvalid := otherUnbroken.drawn_eq_invalidText_iff
          simpa [invalidDrawn, Expression.mapTexts, eq_comm] using onlyInvalid
  | valid tree =>
      cases other with
      | invalid =>
          have onlyInvalid := unbroken.drawn_eq_invalidText_iff
          simpa [invalidDrawn, Expression.mapTexts] using onlyInvalid
      | valid otherTree =>
          simpa [Expression.drawn, Outline.ofExpression, Outline.ofTree_eq, Expression.mapTexts]
            using Tree.IsUnbroken.lines_eq_iff unbroken otherUnbroken

/-! ## Drawings one after the other -/

theorem IsDrawing.ne_nil {drawing : List (List Char)} (isDrawing : IsDrawing drawing) :
    drawing ≠ [] := by
  obtain ⟨root, below, rfl, -⟩ := isDrawing
  exact List.cons_ne_nil root below

/-- Drawings begin with a line that does not belong to the drawing before. -/
theorem takeWhile_flatten_drawings {drawings : List (List (List Char))}
    (areDrawings : ∀ drawing ∈ drawings, IsDrawing drawing) :
    drawings.flatten.takeWhile (fun line => decide (' ' ∈ line)) = [] := by
  cases drawings with
  | nil => rfl
  | cons drawing drawings =>
      obtain ⟨root, below, rfl, noSpace, -⟩ := areDrawings drawing List.mem_cons_self
      rw [List.flatten_cons, List.cons_append, List.takeWhile_cons_of_neg (by simpa using noSpace)]

theorem eq_of_flatten_eq {drawings others : List (List (List Char))}
    (areDrawings : ∀ drawing ∈ drawings, IsDrawing drawing)
    (areOthers : ∀ drawing ∈ others, IsDrawing drawing)
    (same : drawings.flatten = others.flatten) : drawings = others := by
  induction drawings generalizing others with
  | nil =>
      cases others with
      | nil => rfl
      | cons other others =>
          have nonempty := (areOthers other List.mem_cons_self).ne_nil
          simp_all
  | cons drawing drawings ih =>
      cases others with
      | nil =>
          have nonempty := (areDrawings drawing List.mem_cons_self).ne_nil
          simp_all
      | cons other others =>
          obtain ⟨isDrawing, laterDrawings⟩ := List.forall_mem_cons.mp areDrawings
          obtain ⟨isOther, laterOthers⟩ := List.forall_mem_cons.mp areOthers
          obtain ⟨root, below, rfl, -, guided⟩ := isDrawing
          obtain ⟨otherRoot, otherBelow, rfl, -, otherGuided⟩ := isOther
          simp only [List.flatten_cons, List.cons_append, List.cons.injEq] at same
          obtain ⟨rfl, same⟩ := same
          have sameBelow : below = otherBelow := by
            have taken := congrArg (List.takeWhile fun line => decide (' ' ∈ line)) same
            rwa [List.takeWhile_append_of_pos (by simpa using guided),
              List.takeWhile_append_of_pos (by simpa using otherGuided),
              takeWhile_flatten_drawings laterDrawings, takeWhile_flatten_drawings laterOthers,
              List.append_nil, List.append_nil] at taken
          subst sameBelow
          rw [ih laterDrawings laterOthers (List.append_cancel_left same)]

/-! ## Runs -/

namespace CommandLine

variable {world otherWorld : World} {choices otherChoices : GlobalChoices}
  {options otherOptions : Options}

theorem display_tree_eq_iff {found others : List Result}
    (unbroken : ∀ result ∈ found, result.parsed.IsUnbroken)
    (othersUnbroken : ∀ result ∈ others, result.parsed.IsUnbroken) :
    display found .tree = display others .tree ↔
      found.map (·.parsed.drawn) = others.map (·.parsed.drawn) := by
  have hasLines := hasLines_display_tree unbroken
  have otherHasLines := hasLines_display_tree othersUnbroken
  constructor
  · intro same
    rw [← same] at otherHasLines
    exact eq_of_flatten_eq (isDrawing_of_mem_drawn unbroken)
      (isDrawing_of_mem_drawn othersUnbroken) (hasLines.unique otherHasLines)
  · intro same
    rw [← String.toList_inj, hasLines.1, otherHasLines.1, same]

/-- Results are drawn alike exactly if, one by one, their expressions differ in nothing but bells
and backspaces. -/
theorem AreResults.display_tree_eq_iff {expressions others : List String}
    {found otherFound : List Result} (areResults : AreResults options expressions found)
    (areOthers : AreResults otherOptions others otherFound) :
    display found .tree = display otherFound .tree ↔
      List.Forall₂ (fun text otherText => ∃ expression other,
        parse options text = .ok expression ∧ parse otherOptions otherText = .ok other ∧
          expression.mapTexts withoutSignals = other.mapTexts withoutSignals)
        expressions others := by
  rw [CommandLine.display_tree_eq_iff areResults.isUnbroken areOthers.isUnbroken,
    ← List.forall₂_eq_eq_eq, List.forall₂_map_left_iff, List.forall₂_map_right_iff,
    ← areResults.texts, ← areOthers.texts, List.forall₂_map_left_iff, List.forall₂_map_right_iff,
    List.forall₂_iff_zip, List.forall₂_iff_zip]
  refine and_congr_right fun _ => forall₂_congr fun result other => imp_congr_right fun member => ?_
  obtain ⟨inFound, inOthers⟩ := List.of_mem_zip member
  rw [(areResults.isUnbroken result inFound).drawn_eq_iff (areOthers.isUnbroken other inOthers),
    areResults.parsed result inFound, areOthers.parsed other inOthers]
  simp

/-- Two runs draw the same exactly if they draw the same number of expressions which, one by one,
are both invalid or have trees that differ in nothing but bells and backspaces.  Both may have
options of their own. -/
theorem drawings_determine_expressions
    (resolved : CommandLine.options world choices = .ok options)
    (otherResolved : CommandLine.options otherWorld otherChoices = .ok otherOptions)
    (expressions others : List String) :
    ∃ report otherReport : Report,
      Invocation.run world ⟨choices, .parse .tree expressions⟩ = .ok report ∧
      Invocation.run otherWorld ⟨otherChoices, .parse .tree others⟩ = .ok otherReport ∧
      (report.output = otherReport.output ↔
        List.Forall₂ (fun text otherText => ∃ expression other,
          parse options text = .ok expression ∧ parse otherOptions otherText = .ok other ∧
            expression.mapTexts withoutSignals = other.mapTexts withoutSignals)
          expressions others) := by
  obtain ⟨found, areResults, displays⟩ := exists_parse_runs resolved expressions
  obtain ⟨otherFound, areOthers, otherDisplays⟩ := exists_parse_runs otherResolved others
  obtain ⟨report, runs, -, output⟩ := displays .tree
  obtain ⟨otherReport, otherRuns, -, otherOutput⟩ := otherDisplays .tree
  refine ⟨report, otherReport, runs, otherRuns, ?_⟩
  rw [output, otherOutput, areResults.display_tree_eq_iff areOthers]

/-- A bell is not drawn, an identifier may look like a guide, and what is invalid under the one
options is drawn like what is invalid under the others. -/
theorem drawings_of_bell_and_guide :
    CommandLine.options ⟨.empty, [], [(Settings.depthVariable, "1")]⟩ {} = .ok ⟨1, false⟩ ∧
    CommandLine.options ⟨.empty, [], []⟩ { anyCase := true } = .ok ⟨64, true⟩ ∧
    ∃ report otherReport : Report,
      Invocation.run ⟨.empty, [], [(Settings.depthVariable, "1")]⟩
        ⟨{}, .parse .tree ["a\x07 OR ├── AND b", "((c))"]⟩ = .ok report ∧
      Invocation.run ⟨.empty, [], []⟩
        ⟨{ anyCase := true }, .parse .tree ["a or (├── And b)", "c c"]⟩ = .ok otherReport ∧
      report.output = otherReport.output := by
  have otherResolved : CommandLine.options ⟨.empty, [], []⟩ { anyCase := true } =
      .ok ⟨64, true⟩ :=
    options_of_empty_of_good rfl (by decide +kernel) (by decide +kernel) (by decide +kernel)
  obtain ⟨report, otherReport, runs, otherRuns, same⟩ :=
    drawings_determine_expressions options_of_depth_one otherResolved
      ["a\x07 OR ├── AND b", "((c))"] ["a or (├── And b)", "c c"]
  have group := Grammar.Derives.link .and
    ((Grammar.Derives.identifier "├──").of_primary .andExpr)
    ((Grammar.Derives.identifier "b").of_primary .withExpr)
  have withBell : parse ⟨1, false⟩ "a\x07 OR ├── AND b" = .ok (.valid (.compound .or
      (.identifier "a\x07") (.compound .and (.identifier "├──") (.identifier "b")))) :=
    parse_eq_valid_of_derives (by decide +kernel)
      (.link .or ((Grammar.Derives.identifier _).of_primary .orExpr) group) trivial
  have withoutBell : parse ⟨64, true⟩ "a or (├── And b)" = .ok (.valid (.compound .or
      (.identifier "a") (.compound .and (.identifier "├──") (.identifier "b")))) :=
    parse_eq_valid_of_derives (by decide +kernel)
      (.link .or ((Grammar.Derives.identifier _).of_primary .orExpr)
        ((Grammar.Derives.group (.operand .or group)).of_primary .andExpr)) ⟨by decide, trivial⟩
  have tooDeep : parse ⟨1, false⟩ "((c))" = .ok .invalid :=
    parse_eq_invalid_of_two_groups (by decide +kernel)
  have faulty : Grammar.FirstFault 64 [.identifier "c", .identifier "c"]
      ⟨1, .afterExpression (.identifier "c")⟩ :=
    .afterExpression ((Grammar.Derives.identifier "c").of_primary .orExpr) trivial
      (Grammar.ends_cons.mpr (by simp)) (by simp)
  have twoWords : parse ⟨64, true⟩ "c c" = .ok .invalid :=
    parse_eq_invalid_iff.mpr ⟨_, parse?_eq_syntaxError (by decide +kernel) faulty rfl⟩
  exact ⟨options_of_depth_one, otherResolved, report, otherReport, runs, otherRuns, same.mpr
    (.cons ⟨_, _, withBell, withoutBell, by cbv⟩ (.cons ⟨_, _, tooDeep, twoWords, rfl⟩ .nil))⟩

end CommandLine

end LicenseExpr
