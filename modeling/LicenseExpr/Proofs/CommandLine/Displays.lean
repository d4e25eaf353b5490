import Mathlib.Data.List.Forall2
import LicenseExpr.Proofs.Grammar.CorrectPrefix
import LicenseExpr.Proofs.Json.RoundTrip
import LicenseExpr.Proofs.Settings.Layers
import LicenseExpr.Proofs.Tree.Printed

/-!
# What the displays of expressions say

Once the options are settled, a run over some expressions reports on each of
them, in order.  The plain display and the drawings are lines of which only the
one for an invalid expression reads as such, and the JSON display can be read
back.  All displays call the same expressions invalid, and so does the ending
of the run.  With complaints about the settings a run reports these instead,
whatever it was to do.
-/

namespace LicenseExpr.CommandLine

variable {world : World} {choices : GlobalChoices} {options : Options}

/-! ## Results -/

/-- The results of some expressions, each as it is parsed. -/
structure AreResults (options : Options) (expressions : List String) (results : List Result) :
    Prop where
  texts : results.map Result.text = expressions
  parsed : ∀ result ∈ results, parse options result.text = .ok result.parsed

theorem isInvalid_iff {expression : Expression} :
    expression.isInvalid = true ↔ expression = .invalid := by
  cases expression <;> simp [Expression.isInvalid]

namespace AreResults

variable {expressions : List String} {found : List Result}

theorem isUnbroken (areResults : AreResults options expressions found) :
    ∀ result ∈ found, result.parsed.IsUnbroken := fun result member =>
  isUnbroken_of_parse (areResults.parsed result member)

theorem eq_singleton {text : String} {expression : Expression}
    (areResults : AreResults options [text] found) (parsed : parse options text = .ok expression) :
    found = [⟨text, expression⟩] := by
  obtain ⟨result, rfl, rfl⟩ := List.map_eq_singleton_iff.mp areResults.texts
  have parsedSame := areResults.parsed result (List.mem_singleton_self result)
  obtain rfl := Except.ok.inj (parsed.symm.trans parsedSame)
  rfl

/-- What is said of the results one by one is said of the expressions in order. -/
theorem forall₂_map {Value : Type} {describes : String → Value → Prop} {describe : Result → Value}
    (areResults : AreResults options expressions found)
    (each : ∀ result, parse options result.text = .ok result.parsed →
      describes result.text (describe result)) :
    List.Forall₂ describes expressions (found.map describe) := by
  rw [← areResults.texts, List.forall₂_map_left_iff, List.forall₂_map_right_iff, List.forall₂_same]
  exact fun result member => each result (areResults.parsed result member)

theorem countP_invalid_eq_zero_iff (areResults : AreResults options expressions found) :
    found.countP (·.parsed.isInvalid) = 0 ↔
      ¬∃ text ∈ expressions, parse options text = .ok .invalid := by
  rw [List.countP_eq_zero, ← areResults.texts]
  constructor
  · rintro allValid ⟨text, member, invalidText⟩
    obtain ⟨result, inFound, rfl⟩ := List.mem_map.mp member
    have same := (areResults.parsed result inFound).symm.trans invalidText
    exact allValid result inFound (isInvalid_iff.mpr (Except.ok.inj same))
  · intro allValid result inFound isInvalid
    refine allValid ⟨result.text, List.mem_map_of_mem inFound, ?_⟩
    rw [areResults.parsed result inFound, isInvalid_iff.mp isInvalid]

end AreResults

/-! ## Runs -/

/-- The depth of a run is within its range, so every text can be parsed. -/
theorem exists_parse_eq_ok_of_resolved (resolved : CommandLine.options world choices = .ok options)
    (text : String) : ∃ expression, parse options text = .ok expression := by
  obtain ⟨-, -, isDepth, -⟩ := exists_layers_of_options resolved
  have uncapped : min options.maxDepth depthCap = options.maxDepth := min_eq_left isDepth.2
  refine exists_parse_eq_ok ?_ text
  rw [uncapped]
  exact Settings.hasWritableLength_of_range isDepth

/-- Once the options are settled, all expressions have results. -/
theorem exists_results (resolved : CommandLine.options world choices = .ok options)
    (expressions : List String) :
    ∃ found, results options expressions = .ok found ∧ AreResults options expressions found := by
  induction expressions with
  | nil => exact ⟨[], rfl, rfl, List.forall_mem_nil _⟩
  | cons text rest ih =>
      obtain ⟨expression, parsed⟩ := exists_parse_eq_ok_of_resolved resolved text
      obtain ⟨found, succeeds, texts, allParsed⟩ := ih
      refine ⟨⟨text, expression⟩ :: found, ?_, by rw [List.map_cons, texts],
        List.forall_mem_cons.mpr ⟨parsed, allParsed⟩⟩
      rw [results] at succeeds ⊢
      rw [List.mapM_cons, parsed, succeeds]
      rfl

theorem exists_task_run_eq_ok (resolved : CommandLine.options world choices = .ok options)
    (setup : Log.Setup) (task : Task) : ∃ report, task.run setup options = .ok report := by
  cases task with
  | parse shown expressions =>
      obtain ⟨found, succeeds, -⟩ := exists_results resolved expressions
      simp only [Task.run, runParse, succeeds]
      exact ⟨_, rfl⟩
  | ids expression =>
      obtain ⟨parsed, succeeds⟩ := exists_parse_eq_ok_of_resolved resolved expression
      cases parsed <;> simp only [Task.run, runIds, succeeds] <;> exact ⟨_, rfl⟩

/-- Once the options are settled, a run carries out its task. -/
theorem exists_run_eq_of_resolved (resolved : CommandLine.options world choices = .ok options)
    (task : Task) :
    ∃ report done, Invocation.run world ⟨choices, task⟩ = .ok report ∧
      task.run (choices.logSetup world.environment) options = .ok done ∧
      report.ending = done.ending ∧ report.output = done.output := by
  obtain ⟨done, succeeds⟩ :=
    exists_task_run_eq_ok resolved (choices.logSetup world.environment) task
  refine ⟨{ done with records := settingsRecords world choices ++ done.records }, done, ?_,
    succeeds, rfl, rfl⟩
  simp only [Invocation.run, resolved, succeeds]

/-- Complaints about the settings are all that a run reports. -/
theorem exists_report_of_refused {complaints : List Complaint}
    (refused : CommandLine.options world choices = .error (.refused complaints)) :
    ∃ report : Report, report.ending = .refused ∧
      report.output = Text.printedLine ("error: " ++ Complaint.report complaints) ∧
      ∀ task, Invocation.run world ⟨choices, task⟩ = .ok report := by
  refine ⟨{ refusal complaints with records := settingsRecords world choices }, rfl, rfl, ?_⟩
  intro task
  simp [Invocation.run, refused, refusal]

/-- A world without files, in which the environment sets the depth to one. -/
theorem options_of_depth_one :
    CommandLine.options ⟨.empty, [], [(Settings.depthVariable, "1")]⟩ {} = .ok ⟨1, false⟩ :=
  options_of_empty_of_good rfl (by decide +kernel) (by decide +kernel) (by decide +kernel)

/-- A run over some expressions displays their results, in any display, and the ending tells
whether some expression is invalid. -/
theorem exists_parse_runs (resolved : CommandLine.options world choices = .ok options)
    (expressions : List String) :
    ∃ found, AreResults options expressions found ∧ ∀ shown, ∃ report,
      Invocation.run world ⟨choices, .parse shown expressions⟩ = .ok report ∧
      report.ending.code =
        (if ∃ text ∈ expressions, parse options text = .ok .invalid then 1 else 0) ∧
      report.output = display found shown := by
  obtain ⟨found, succeeds, areResults⟩ := exists_results resolved expressions
  refine ⟨found, areResults, fun shown => ?_⟩
  obtain ⟨report, done, runs, finishes, ending, output⟩ :=
    exists_run_eq_of_resolved resolved (.parse shown expressions)
  simp only [Task.run, runParse, succeeds] at finishes
  obtain rfl := Except.ok.inj finishes
  refine ⟨report, runs, ?_, output⟩
  rw [ending]
  by_cases allValid : found.countP (·.parsed.isInvalid) = 0
  · rw [if_pos allValid, if_neg (areResults.countP_invalid_eq_zero_iff.mp allValid), Ending.code]
  · have someInvalid := not_not.mp (mt areResults.countP_invalid_eq_zero_iff.mpr allValid)
    rw [if_neg allValid, if_pos someInvalid, Ending.code]

/-! ## Plain lines and drawings -/

/-- The text consists of the given lines, each ended by a line feed. -/
def HasLines (text : String) (lines : List (List Char)) : Prop :=
  text.toList = lines.flatMap (· ++ ['\n']) ∧ ∀ line ∈ lines, '\n' ∉ line

section Unbroken

variable {found : List Result} (unbroken : ∀ result ∈ found, result.parsed.IsUnbroken)
include unbroken

theorem hasLines_display_plain :
    HasLines (display found .plain) (found.map (·.parsed.printed)) := by
  constructor
  · simp only [display, String.toList_join, List.flatMap_map]
    exact List.flatMap_congr fun result member =>
      (unbroken result member).toList_printedLine_render
  · intro line member
    obtain ⟨result, inFound, rfl⟩ := List.mem_map.mp member
    exact (unbroken result inFound).lineFeed_not_mem_printed

theorem hasLines_display_tree :
    HasLines (display found .tree) (found.map (·.parsed.drawn)).flatten := by
  constructor
  · simp only [display, String.toList_join, List.flatMap_map, Outline.drawing,
      String.toList_ofList, ← List.flatMap_def, List.flatMap_assoc, Expression.drawn]
  · intro line member
    obtain ⟨result, inFound, inDrawing⟩ := List.mem_flatMap.mp member
    exact (unbroken result inFound).lineFeed_not_mem_drawn line inDrawing

theorem isDrawing_of_mem_drawn : ∀ drawing ∈ found.map (·.parsed.drawn), IsDrawing drawing := by
  intro drawing member
  obtain ⟨result, inFound, rfl⟩ := List.mem_map.mp member
  exact (unbroken result inFound).isDrawing_drawn

end Unbroken

/-! ## JSON -/

theorem numberFree_object (result : Result) : result.object.NumberFree := by
  refine .object (List.forall_mem_cons.mpr ⟨.text _, List.forall_mem_cons.mpr ⟨.boolean _,
    List.forall_mem_cons.mpr ⟨.text _, List.forall_mem_singleton.mpr (.array ?_)⟩⟩⟩)
  intro item member
  obtain ⟨id, -, rfl⟩ := List.mem_map.mp member
  exact .text id

/-- What the JSON display prints is read back as the objects of the results. -/
theorem read?_display_json (found : List Result) :
    Json.read? (display found .json) = some (.array (found.map Result.object)) := by
  have free : (Json.array (found.map Result.object)).NumberFree := by
    refine .array fun item member => ?_
    obtain ⟨result, -, rfl⟩ := List.mem_map.mp member
    exact numberFree_object result
  rw [display, Text.withoutControls_eq_self (Json.isStill_write free 0)]
  exact Json.read?_write_append rfl free (List.forall_mem_singleton.mpr rfl)

/-- An object says of a text whether the expression it stands for is valid and what its canonical
form is, and lists its licenses in ascending order, each once. -/
def Describes (options : Options) (text : String) (object : Json) : Prop :=
  ∃ (expression : Expression) (ids : List String), parse options text = .ok expression ∧
    ids.Pairwise (· < ·) ∧
    (∀ id, id ∈ ids ↔ ∃ tree, expression = .valid tree ∧ id ∈ tree.leaves true) ∧
    object = .object [("expression", .text text), ("valid", .boolean (expression ≠ .invalid)),
      ("rendered", .text expression.render), ("license_ids", .array (ids.map .text))]

theorem describes_object {result : Result} (parsed : parse options result.text = .ok result.parsed) :
    Describes options result.text result.object := by
  refine ⟨result.parsed, result.parsed.licenseIds, parsed, ?_⟩
  rw [Result.object]
  cases result.parsed with
  | invalid => exact ⟨List.Pairwise.nil, by simp [Expression.licenseIds], rfl⟩
  | valid tree =>
      refine ⟨Text.pairwise_sortedDistinct _, ?_, rfl⟩
      simp [Expression.licenseIds]

/-- The output of the JSON display is a JSON text, which is read as one object for each
expression, in order. -/
theorem json_output_reads_back (resolved : CommandLine.options world choices = .ok options)
    (expressions : List String) :
    ∃ report objects, Invocation.run world ⟨choices, .parse .json expressions⟩ = .ok report ∧
      Json.read? report.output = some (.array objects) ∧
      List.Forall₂ (Describes options) expressions objects := by
  obtain ⟨found, areResults, displays⟩ := exists_parse_runs resolved expressions
  obtain ⟨report, runs, -, output⟩ := displays .json
  refine ⟨report, found.map Result.object, runs, ?_, areResults.forall₂_map fun _ parsed => ?_⟩
  · rw [output, read?_display_json]
  · exact describes_object parsed

/-- An identifier may hold quotes, backslashes and control characters. -/
theorem json_output_of_escaped_identifiers :
    CommandLine.options ⟨.empty, [], [(Settings.depthVariable, "1")]⟩ {} = .ok ⟨1, false⟩ ∧
    parse ⟨1, false⟩ "b\"\\\x07 OR\ta" =
      .ok (.valid (.compound .or (.identifier "b\"\\\x07") (.identifier "a"))) ∧
    ∃ report objects, Invocation.run ⟨.empty, [], [(Settings.depthVariable, "1")]⟩
        ⟨{}, .parse .json ["b\"\\\x07 OR\ta", "(("]⟩ = .ok report ∧
      Json.read? report.output = some (.array objects) ∧
      List.Forall₂ (Describes ⟨1, false⟩) ["b\"\\\x07 OR\ta", "(("] objects := by
  have parsed : parse ⟨1, false⟩ "b\"\\\x07 OR\ta" =
      .ok (.valid (.compound .or (.identifier "b\"\\\x07") (.identifier "a"))) :=
    parse_eq_valid_of_derives (by decide +kernel)
      (.link .or ((Grammar.Derives.identifier _).of_primary .orExpr)
        ((Grammar.Derives.identifier _).of_primary .andExpr)) trivial
  exact ⟨options_of_depth_one, parsed, json_output_reads_back options_of_depth_one _⟩

/-! ## All displays together -/

/-- With complaints about the settings, a run over any expressions in any display reports just
these.  Otherwise it ends the same way in all displays, depending on whether some expression is
invalid, and the displays call the same expressions invalid, in order. -/
theorem parse_displays_agree (world : World) (choices : GlobalChoices) :
    (∀ complaints, CommandLine.options world choices = .error (.refused complaints) →
      ∃ report : Report, report.ending.code = 2 ∧
        report.output = Text.printedLine ("error: " ++ Complaint.report complaints) ∧
        ∀ shown expressions,
          Invocation.run world ⟨choices, .parse shown expressions⟩ = .ok report) ∧
    ∀ options, CommandLine.options world choices = .ok options → ∀ expressions,
      ∃ plain tree json : Report,
        Invocation.run world ⟨choices, .parse .plain expressions⟩ = .ok plain ∧
        Invocation.run world ⟨choices, .parse .tree expressions⟩ = .ok tree ∧
        Invocation.run world ⟨choices, .parse .json expressions⟩ = .ok json ∧
        (∀ report ∈ [plain, tree, json], report.ending.code =
          if ∃ text ∈ expressions, parse options text = .ok .invalid then 1 else 0) ∧
        (∃ lines, HasLines plain.output lines ∧
          List.Forall₂ (fun text line => ∃ expression, parse options text = .ok expression ∧
            (line = Expression.invalidText.toList ↔ expression = .invalid)) expressions lines) ∧
        (∃ items, Json.read? json.output = some (.array items) ∧
          List.Forall₂ (fun text item => ∃ expression, parse options text = .ok expression ∧
            item.member? "valid" = some (.boolean (expression ≠ .invalid))) expressions items) ∧
        ∃ drawings, HasLines tree.output drawings.flatten ∧
          (∀ drawing ∈ drawings, IsDrawing drawing) ∧
          List.Forall₂ (fun text drawing => ∃ expression, parse options text = .ok expression ∧
            (drawing = [Expression.invalidText.toList] ↔ expression = .invalid))
            expressions drawings := by
  constructor
  · intro complaints refused
    obtain ⟨report, ending, output, runs⟩ := exists_report_of_refused refused
    refine ⟨report, ?_, output, fun shown expressions => runs (.parse shown expressions)⟩
    rw [ending, Ending.code]
  · intro options resolved expressions
    obtain ⟨found, areResults, displays⟩ := exists_parse_runs resolved expressions
    obtain ⟨plain, runsPlain, plainCode, plainOutput⟩ := displays .plain
    obtain ⟨tree, runsTree, treeCode, treeOutput⟩ := displays .tree
    obtain ⟨json, runsJson, jsonCode, jsonOutput⟩ := displays .json
    refine ⟨plain, tree, json, runsPlain, runsTree, runsJson, ?_, ?_, ?_, ?_⟩
    · simp only [List.forall_mem_cons, plainCode, treeCode, jsonCode]
      simp
    · rw [plainOutput]
      refine ⟨_, hasLines_display_plain areResults.isUnbroken, areResults.forall₂_map ?_⟩
      exact fun result parsed =>
        ⟨result.parsed, parsed, (isUnbroken_of_parse parsed).printed_eq_invalidText_iff⟩
    · rw [jsonOutput]
      refine ⟨_, read?_display_json found, areResults.forall₂_map ?_⟩
      intro result parsed
      refine ⟨result.parsed, parsed, ?_⟩
      cases isParsed : result.parsed <;>
        simp [Json.member?, Result.object, isParsed, Expression.isInvalid, List.lookup_cons]
    · rw [treeOutput]
      refine ⟨_, hasLines_display_tree areResults.isUnbroken,
        isDrawing_of_mem_drawn areResults.isUnbroken, areResults.forall₂_map ?_⟩
      exact fun result parsed =>
        ⟨result.parsed, parsed, (isUnbroken_of_parse parsed).drawn_eq_invalidText_iff⟩

/-- With a depth of one, a second parenthesis in a row is too deep. -/
theorem parse_eq_invalid_of_two_groups {text : String}
    (twoGroups : [.openParen, .openParen] <+: Token.tokenize false text) :
    parse ⟨1, false⟩ text = .ok .invalid := by
  obtain ⟨after, twoGroups⟩ := twoGroups
  have awaits : Grammar.Awaits 1 [.openParen] .orExpr 1 :=
    .group Grammar.Awaits.start.first_operand (by decide)
  have faulty : Grammar.FirstFault 1 (.openParen :: .openParen :: after) ⟨1, .nestedTooDeep 1⟩ :=
    .noOperand awaits.first_operand (.openParen le_rfl after)
  exact parse_eq_invalid_iff.mpr
    ⟨_, parse?_eq_syntaxError twoGroups.symm faulty (by decide +kernel)⟩

/-- With a depth of one, `((a))` is invalid in every display; with a depth of zero, nothing is
displayed. -/
theorem parse_displays_agree_on_nested_groups :
    CommandLine.options ⟨.empty, [], [(Settings.depthVariable, "1")]⟩ {} = .ok ⟨1, false⟩ ∧
    parse ⟨1, false⟩ "((a))" = .ok .invalid ∧
    (∃ tree drawing, Invocation.run ⟨.empty, [], [(Settings.depthVariable, "1")]⟩
        ⟨{}, .parse .tree ["(a)", "((a))"]⟩ = .ok tree ∧ tree.ending.code = 1 ∧
      HasLines tree.output (drawing ++ [Expression.invalidText.toList])) ∧
    CommandLine.options ⟨.empty, [], [(Settings.depthVariable, "0")]⟩ {} =
      .error (.refused [.depthOutOfRange Settings.depthVariable 0]) ∧
    ∃ report : Report, report.ending.code = 2 ∧
      ∀ shown expressions, Invocation.run ⟨.empty, [], [(Settings.depthVariable, "0")]⟩
        ⟨{}, .parse shown expressions⟩ = .ok report := by
  have refused : CommandLine.options ⟨.empty, [], [(Settings.depthVariable, "0")]⟩ {} =
      .error (.refused [.depthOutOfRange Settings.depthVariable 0]) := by
    have zero : List.lookup Settings.depthVariable [(Settings.depthVariable, "0")] =
        some (Text.integerText 0) := by decide +kernel
    exact (Settings.resolve_of_integerText zero (by decide +kernel) {}).trans (if_neg (by decide))
  have tooDeep : parse ⟨1, false⟩ "((a))" = .ok .invalid :=
    parse_eq_invalid_of_two_groups (by decide +kernel)
  obtain ⟨-, displays⟩ := parse_displays_agree ⟨.empty, [], [(Settings.depthVariable, "1")]⟩ {}
  obtain ⟨_, tree, _, _, runs, _, codes, _, _, drawings, hasLines, _, agree⟩ :=
    displays ⟨1, false⟩ options_of_depth_one ["(a)", "((a))"]
  have code1 : tree.ending.code = 1 := by
    rw [codes tree (by simp), if_pos ⟨_, by simp, tooDeep⟩]
  obtain ⟨refuses, -⟩ := parse_displays_agree ⟨.empty, [], [(Settings.depthVariable, "0")]⟩ {}
  obtain ⟨report, code, -, sameRun⟩ := refuses _ refused
  have shown : ∃ drawing, drawings = [drawing, [Expression.invalidText.toList]] := by
    cases agree with
    | @cons _ drawing _ _ _ later =>
        cases later with
        | cons second none =>
            cases none
            obtain ⟨expression, parsed, invalidOnly⟩ := second
            obtain rfl := Except.ok.inj (tooDeep.symm.trans parsed)
            exact ⟨drawing, by rw [invalidOnly.mpr rfl]⟩
  obtain ⟨drawing, rfl⟩ := shown
  exact ⟨options_of_depth_one, tooDeep, ⟨tree, drawing, runs, code1, by simpa using hasLines⟩,
    refused, report, code, sameRun⟩

end LicenseExpr.CommandLine
