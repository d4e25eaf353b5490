import LicenseExpr.Proofs.CommandLine.Displays
import LicenseExpr.Proofs.Tree.Leaves

/-!
# Identifiers as they are written

The licenses of an expression are listed one to a line, and its canonical form
is printed as one line.  The lines hold what the identifiers hold but for bells
and backspaces, which the terminal is spared though they may stand in an
identifier.  So what is printed is what is written exactly if there are none.
The JSON display leaves them in.
-/

namespace LicenseExpr

open Text

theorem isSpaced_of_mem_texts {options : Options} {text leaf : String} {tree : Tree}
    (parsed : parse options text = .ok (.valid tree)) (member : leaf ∈ tree.texts) :
    IsSpaced leaf.toList := by
  intro char inLeaf blank
  obtain ⟨notBlank, -⟩ := (isIdentifier_of_mem_texts parsed member).unbroken char inLeaf
  rw [blank] at notBlank
  cases notBlank

theorem Expression.IsUnbroken.isSpaced_render {expression : Expression}
    (unbroken : expression.IsUnbroken) : IsSpaced expression.render.toList := by
  intro char member blank
  by_contra notSpace
  exact unbroken.not_mem_render blank notSpace member

namespace Tree

variable {tree : Tree} {char : Char} {text : String}

theorem mem_canonical_of_mem_texts (member : text ∈ tree.texts) (inText : char ∈ text.toList) :
    char ∈ tree.canonical := by
  induction tree with
  | identifier leaf =>
      obtain rfl := List.mem_singleton.mp member
      exact inText
  | compound operator left right leftIH rightIH =>
      rcases List.mem_append.mp member with inLeft | inRight
      · simp [canonical, leftIH inLeft]
      · simp [canonical, rightIH inRight]

/-- A canonical form has no bells and backspaces but those of its identifiers. -/
theorem withoutSignals_canonical_iff :
    (∀ char ∈ tree.canonical, isSignal char = false) ↔
      ∀ text ∈ tree.texts, withoutSignals text = text := by
  simp only [withoutSignals_eq_self_iff]
  constructor
  · exact fun silent text member char inText =>
      silent char (mem_canonical_of_mem_texts member inText)
  · exact fun silent => forall_mem_canonical silent (by simp [isSignal])

end Tree

theorem withoutSignals_render_iff {tree : Tree} :
    withoutSignals (Expression.valid tree).render = (Expression.valid tree).render ↔
      ∀ text ∈ (Expression.valid tree).identifiers, withoutSignals text = text := by
  rw [withoutSignals_eq_self_iff, Expression.toList_render_valid, Tree.withoutSignals_canonical_iff,
    Expression.identifiers, Tree.leaves_false]

namespace CommandLine

variable {world : World} {choices : GlobalChoices} {options : Options} {text : String} {tree : Tree}

/-! ## Lines -/

theorem splitOn_lines {lines : List (List Char)} (unbroken : ∀ line ∈ lines, '\n' ∉ line) :
    (lines.flatMap (· ++ ['\n'])).splitOn '\n' = lines ++ [[]] := by
  induction lines with
  | nil => simp
  | cons line lines ih =>
      obtain ⟨lineUnbroken, laterUnbroken⟩ := List.forall_mem_cons.mp unbroken
      have whole : line.splitOn '\n' = [line] := by
        apply List.splitOnP_eq_singleton
        intro char member
        simpa using fun same : char = '\n' => lineUnbroken (same ▸ member)
      rw [List.flatMap_cons, List.append_assoc, List.singleton_append, List.splitOn,
        List.splitOnP_append_cons _ _ (by simp), ← List.splitOn, ← List.splitOn, whole,
        ih laterUnbroken, List.singleton_append, List.cons_append]

/-- A text has its lines in one way only. -/
theorem HasLines.unique {output : String} {lines others : List (List Char)}
    (first : HasLines output lines) (second : HasLines output others) : lines = others := by
  have split := splitOn_lines first.2
  rw [← first.1, second.1, splitOn_lines second.2] at split
  exact (List.append_cancel_right split).symm

theorem hasLines_join {texts : List String} (unbroken : ∀ text ∈ texts, '\n' ∉ text.toList) :
    HasLines (String.join (texts.map (· ++ "\n"))) (texts.map String.toList) := by
  constructor
  · simp [String.toList_join, List.flatMap_map]
  · intro line member
    obtain ⟨text, inTexts, rfl⟩ := List.mem_map.mp member
    exact unbroken text inTexts

/-! ## Runs -/

theorem isSpaced_of_mem_licenseIds (parsed : parse options text = .ok (.valid tree)) :
    ∀ id ∈ (Expression.valid tree).licenseIds, IsSpaced id.toList := by
  intro id member
  rw [Expression.licenseIds, mem_sortedDistinct] at member
  exact isSpaced_of_mem_texts parsed (Tree.mem_texts_of_mem_leaves member)

/-- Without their bells and backspaces the licenses are listed one to a line. -/
theorem exists_ids_run (resolved : CommandLine.options world choices = .ok options)
    (parsed : parse options text = .ok (.valid tree)) :
    ∃ report, Invocation.run world ⟨choices, .ids text⟩ = .ok report ∧ report.ending.code = 0 ∧
      HasLines report.output
        ((Expression.valid tree).licenseIds.map fun id => (withoutSignals id).toList) := by
  obtain ⟨report, done, runs, finishes, ending, output⟩ :=
    exists_run_eq_of_resolved resolved (.ids text)
  simp only [Task.run, runIds, parsed] at finishes
  obtain rfl := Except.ok.inj finishes
  have spaced := isSpaced_of_mem_licenseIds parsed
  refine ⟨report, runs, by rw [ending, Ending.code], ?_, ?_⟩
  · simp only [output, String.toList_join, List.flatMap_map]
    apply List.flatMap_congr
    intro id member
    rw [printedLine_of_isSpaced (spaced id member), String.toList_append]
    rfl
  · intro line member
    obtain ⟨id, inIds, rfl⟩ := List.mem_map.mp member
    exact lineFeed_not_mem_withoutSignals (spaced id inIds)

/-- The list of the licenses is as they are written exactly if that holds of each. -/
theorem output_eq_join_iff {output : String} {ids : List String}
    (spaced : ∀ id ∈ ids, IsSpaced id.toList)
    (hasLines : HasLines output (ids.map fun id => (withoutSignals id).toList)) :
    output = String.join (ids.map (· ++ "\n")) ↔ ∀ id ∈ ids, withoutSignals id = id := by
  have unbroken : ∀ id ∈ ids, '\n' ∉ id.toList := fun id member lineFeed =>
    absurd (spaced id member '\n' lineFeed (by decide)) (by decide)
  constructor
  · intro same
    have lines := hasLines_join unbroken
    rw [← same] at lines
    have texts := List.map_inj_left.mp (hasLines.unique lines)
    exact fun id member => String.toList_inj.mp (texts id member)
  · intro written
    have lines : ids.map (fun id => (withoutSignals id).toList) = ids.map String.toList :=
      List.map_congr_left fun id member => congrArg String.toList (written id member)
    rw [← String.toList_inj, hasLines.1, lines, (hasLines_join unbroken).1]

/-- The listed licenses and the canonical form of an expression are printed without bells and
backspaces, and so as they are written exactly if no identifier holds any.  The JSON display lists
the same licenses as they are written. -/
theorem identifiers_printed_without_signals
    (resolved : CommandLine.options world choices = .ok options)
    (parsed : parse options text = .ok (.valid tree)) :
    (Expression.valid tree).licenseIds.Pairwise (· < ·) ∧
    (∀ id, id ∈ (Expression.valid tree).licenseIds ↔ id ∈ tree.leaves true) ∧
    ∃ (ids plain json : Report) (result : Json),
      Invocation.run world ⟨choices, .ids text⟩ = .ok ids ∧
      Invocation.run world ⟨choices, .parse .plain [text]⟩ = .ok plain ∧
      Invocation.run world ⟨choices, .parse .json [text]⟩ = .ok json ∧
      (∀ report ∈ [ids, plain, json], report.ending.code = 0) ∧
      HasLines ids.output
        ((Expression.valid tree).licenseIds.map fun id => (withoutSignals id).toList) ∧
      (ids.output = String.join ((Expression.valid tree).licenseIds.map (· ++ "\n")) ↔
        ∀ id ∈ (Expression.valid tree).licenseIds, withoutSignals id = id) ∧
      plain.output = withoutSignals (Expression.valid tree).render ++ "\n" ∧
      (plain.output = (Expression.valid tree).render ++ "\n" ↔
        ∀ id ∈ (Expression.valid tree).identifiers, withoutSignals id = id) ∧
      Json.read? json.output = some (.array [result]) ∧
      result.member? "license_ids" =
        some (.array ((Expression.valid tree).licenseIds.map .text)) := by
  refine ⟨pairwise_sortedDistinct _, fun id => mem_sortedDistinct, ?_⟩
  obtain ⟨ids, runsIds, idsCode, hasLines⟩ := exists_ids_run resolved parsed
  obtain ⟨found, areResults, displays⟩ := exists_parse_runs resolved [text]
  obtain rfl := areResults.eq_singleton parsed
  obtain ⟨plain, runsPlain, plainCode, plainOutput⟩ := displays .plain
  obtain ⟨json, runsJson, jsonCode, jsonOutput⟩ := displays .json
  have spaced := (isUnbroken_of_parse parsed).isSpaced_render
  have plainLine : plain.output = withoutSignals (Expression.valid tree).render ++ "\n" := by
    rw [plainOutput, display, List.map_singleton, printedLine_of_isSpaced spaced]
    simp
  refine ⟨ids, plain, json, Result.object ⟨text, .valid tree⟩, runsIds, runsPlain, runsJson, ?_,
    hasLines, output_eq_join_iff (isSpaced_of_mem_licenseIds parsed) hasLines, plainLine, ?_, ?_,
    ?_⟩
  · simp [idsCode, plainCode, jsonCode, parsed]
  · rw [plainLine, ← withoutSignals_render_iff]
    simp
  · rw [jsonOutput, read?_display_json, List.map_singleton]
  · simp [Json.member?, Result.object, List.lookup_cons]

/-- The bell of the license is printed neither in the list nor in the canonical form. -/
theorem license_printed_without_bell :
    CommandLine.options ⟨.empty, [], [(Settings.depthVariable, "1")]⟩ {} = .ok ⟨1, false⟩ ∧
    parse ⟨1, false⟩ "a\x07 WITH (c)" =
      .ok (.valid (.compound .exception (.identifier "a\x07") (.identifier "c"))) ∧
    ∃ ids plain : Report,
      Invocation.run ⟨.empty, [], [(Settings.depthVariable, "1")]⟩
        ⟨{}, .ids "a\x07 WITH (c)"⟩ = .ok ids ∧
      Invocation.run ⟨.empty, [], [(Settings.depthVariable, "1")]⟩
        ⟨{}, .parse .plain ["a\x07 WITH (c)"]⟩ = .ok plain ∧
      HasLines ids.output ["a".toList] ∧ ids.output ≠ "a\x07\n" ∧
      plain.output = "WITH(a, c)\n" := by
  have parsed : parse ⟨1, false⟩ "a\x07 WITH (c)" =
      .ok (.valid (.compound .exception (.identifier "a\x07") (.identifier "c"))) :=
    parse_eq_valid_of_derives (by decide +kernel)
      (.operand .or (.operand .and (.exception (.identifier _)
        (.group ((Grammar.Derives.identifier _).of_primary .orExpr))))) ⟨by decide, trivial⟩
  have listed : (Expression.valid (.compound .exception (.identifier "a\x07")
      (.identifier "c"))).licenseIds = ["a\x07"] := by decide +kernel
  have rendered : withoutSignals (Expression.valid (.compound .exception (.identifier "a\x07")
      (.identifier "c"))).render = "WITH(a, c)" := by decide +kernel
  have silenced : withoutSignals "a\x07" = "a" := by decide
  obtain ⟨-, -, ids, plain, -, -, runsIds, runsPlain, -, -, lines, verbatim, plainLine, -⟩ :=
    identifiers_printed_without_signals options_of_depth_one parsed
  rw [listed, List.map_singleton, silenced] at lines
  rw [rendered] at plainLine
  refine ⟨options_of_depth_one, parsed, ids, plain, runsIds, runsPlain, lines, fun whole => ?_,
    plainLine⟩
  have written := verbatim.mp (by rw [listed, whole]; rfl) "a\x07" (by rw [listed]; decide)
  rw [silenced] at written
  exact absurd written (by decide)

/-- A bell that ends an identifier is not printed. -/
theorem bell_not_printed :
    CommandLine.options ⟨.empty, [], []⟩ {} = .ok {} ∧
    parse {} "a\x07" = .ok (.valid (.identifier "a\x07")) ∧
    (∃ report, Invocation.run ⟨.empty, [], []⟩ ⟨{}, .ids "a\x07"⟩ = .ok report ∧
      report.output = "a\n") ∧
    ¬∀ (world : World) (choices : GlobalChoices) (options : Options) (text : String) (tree : Tree),
      CommandLine.options world choices = .ok options →
      parse options text = .ok (.valid tree) →
      ∃ report, Invocation.run world ⟨choices, .ids text⟩ = .ok report ∧
        report.output = String.join ((Expression.valid tree).licenseIds.map (· ++ "\n")) := by
  have resolved : CommandLine.options ⟨.empty, [], []⟩ {} = .ok {} :=
    options_of_empty_of_good rfl (by decide +kernel) (by decide +kernel) (by decide +kernel)
  have parsed : parse {} "a\x07" = .ok (.valid (.identifier "a\x07")) :=
    parse_eq_valid_of_derives (by decide +kernel)
      ((Grammar.Derives.identifier _).of_primary .orExpr) trivial
  obtain ⟨report, runs, -, lines, -⟩ := exists_ids_run resolved parsed
  have output : report.output = "a\n" := by
    rw [← String.toList_inj, lines]
    decide +kernel
  refine ⟨resolved, parsed, ⟨report, runs, output⟩, fun always => ?_⟩
  obtain ⟨same, runsSame, written⟩ := always _ _ _ _ _ resolved parsed
  obtain rfl := Except.ok.inj (runs.symm.trans runsSame)
  have joined : String.join ((Expression.valid (.identifier "a\x07")).licenseIds.map (· ++ "\n")) =
      "a\x07\n" := by decide +kernel
  rw [output, joined] at written
  exact absurd written (by decide)

end CommandLine

end LicenseExpr
