import LicenseExpr.Proofs.CommandLine.Displays

/-!
# Which settings files are beyond complaining

Loading a settings file is meant to end with options or with complaints.  It does
so exactly if the path can be looked up and the content is text, is no document
of the kind that the reader itself gives up on, has a section that is a table, a
text or a list with something unknown in it, and holds no integer in the place of
an option, or among the unknown keys, that is too long to be shown.  In all other
cases the run fails without a report.
-/

namespace LicenseExpr

namespace Settings

/-- Loading ended with options, or with complaints. -/
def IsAnswer : Except LoadError Options → Prop
  | .ok _ => True
  | .error (.refused _) => True
  | .error _ => False

theorem isAnswer_iff {result : Except LoadError Options} :
    IsAnswer result ↔
      (∃ options, result = .ok options) ∨ ∃ complaints, result = .error (.refused complaints) := by
  cases result with
  | ok options => simp [IsAnswer]
  | error error => cases error <;> simp [IsAnswer]

theorem isAnswer_ofComplaints_iff {complaints : List Complaint} :
    IsAnswer (.error (.ofComplaints complaints)) ↔
      ∀ complaint ∈ complaints, complaint.isWritable = true := by
  rw [LoadError.ofComplaints]
  by_cases writable : complaints.all Complaint.isWritable = true
  · rw [if_pos writable]
    exact ⟨fun _ => List.all_eq_true.mp writable, fun _ => trivial⟩
  · rw [if_neg writable]
    exact ⟨False.elim, fun each => writable (List.all_eq_true.mpr each)⟩

/-! ## Parser tables -/

/-- What a parser table has in the place of the options can be shown in a message. -/
def ShowsOptions (parser : List (String × Setting)) : Prop :=
  (∀ value ∈ parser.lookup "max_depth", value.isWritable = true) ∧
    ∀ value ∈ parser.lookup "case_insensitive_operators", value.isWritable = true

theorem isWritable_of_mem_strangersOf {place : String} {entries : List (String × Setting)} :
    ∀ complaint ∈ strangersOf place entries, complaint.isWritable = true := by
  intro complaint member
  obtain ⟨key, -, rfl⟩ := List.mem_map.mp member
  rfl

theorem isWritable_complaintsOf_depthOf_iff {place : String} {entries : List (String × Setting)} :
    (∀ complaint ∈ complaintsOf (depthOf place entries), complaint.isWritable = true) ↔
      ∀ value ∈ entries.lookup "max_depth", value.isWritable = true := by
  rw [depthOf]
  cases entries.lookup "max_depth" with
  | none => simp [complaintsOf]
  | some value =>
      cases value with
      | integer depth =>
          simp only [Complaint.checkDepth, Complaint.checkRange]
          split
          case isTrue range =>
            simp [complaintsOf, Setting.isWritable, hasWritableLength_of_range range]
          case isFalse => simp [complaintsOf, Setting.isWritable, Complaint.isWritable]
      | _ => simp [Complaint.checkDepth, complaintsOf, Complaint.isWritable]

theorem isWritable_complaintsOf_anyCaseOf_iff {place : String}
    {entries : List (String × Setting)} :
    (∀ complaint ∈ complaintsOf (anyCaseOf place entries), complaint.isWritable = true) ↔
      ∀ value ∈ entries.lookup "case_insensitive_operators", value.isWritable = true := by
  rw [anyCaseOf]
  cases entries.lookup "case_insensitive_operators" with
  | none => simp [complaintsOf]
  | some value =>
      cases value with
      | boolean value => simp [complaintsOf, Setting.isWritable]
      | _ => simp [complaintsOf, Complaint.isWritable]

theorem isAnswer_ofParserTable_iff {place : String} {entries : List (String × Setting)} :
    IsAnswer (ofParserTable place entries) ↔ ShowsOptions entries := by
  have shows : (∀ complaint ∈ tableComplaints place entries, complaint.isWritable = true) ↔
      ShowsOptions entries := by
    simp only [tableComplaints, List.forall_mem_append, isWritable_complaintsOf_depthOf_iff,
      isWritable_complaintsOf_anyCaseOf_iff, ShowsOptions]
    rw [and_assoc, and_iff_right isWritable_of_mem_strangersOf]
  rw [← shows]
  by_cases wrong : tableComplaints place entries = []
  · obtain ⟨options, settled⟩ := exists_ofParserTable_eq_ok_iff.mpr wrong
    rw [settled, wrong]
    exact ⟨fun _ => List.forall_mem_nil _, fun _ => trivial⟩
  · rw [ofParserTable_of_complaints wrong, isAnswer_ofComplaints_iff]

/-! ## Sections -/

/-- A section in which all that is wrong can be complained about. -/
inductive IsReportable : Setting → Prop where
  /-- A table with unknown keys. -/
  | strangers {entries : List (String × Setting)} :
      unknownNames ["parser"] (keys entries) ≠ [] → IsReportable (.table entries)
  /-- A table in which something else than a table has the place of the parser table. -/
  | noParserTable {entries : List (String × Setting)} :
      (under "parser" entries).entries? = none → IsReportable (.table entries)
  /-- A table with a parser table. -/
  | parserTable {entries parser : List (String × Setting)} :
      under "parser" entries = .table parser → ShowsOptions parser → IsReportable (.table entries)
  /-- A text, each character of which is an unknown key. -/
  | text {value : String} : value ≠ "" → IsReportable (.text value)
  /-- A list with items that are unknown keys and can be put in order. -/
  | list {items unknown : List Setting} :
      unknownItems ["parser"] items = .ok unknown → unknown ≠ [] →
      (∀ item ∈ unknown, item.isWritable = true) → IsReportable (.list items)

theorem isAnswer_ofSection_table_iff {place : String} {entries : List (String × Setting)} :
    IsAnswer (ofSection place (.table entries)) ↔ IsReportable (.table entries) := by
  by_cases known : unknownNames ["parser"] (keys entries) = []
  case neg =>
    rw [ofSection_of_strangers known, isAnswer_ofComplaints_iff]
    refine ⟨fun _ => .strangers known, fun _ => ?_⟩
    intro complaint member
    obtain ⟨key, -, rfl⟩ := List.mem_map.mp member
    rfl
  case pos =>
    cases found : (under "parser" entries).entries? with
    | none =>
        rw [ofSection_of_not_table known found]
        exact ⟨fun _ => .noParserTable found, fun _ => trivial⟩
    | some parser =>
        have isTable : under "parser" entries = .table parser :=
          Setting.entries?_eq_some_iff.mp found
        rw [ofSection_of_table known isTable, isAnswer_ofParserTable_iff]
        constructor
        · intro shows
          exact .parserTable isTable shows
        · intro reportable
          cases reportable with
          | strangers strangers => exact absurd known strangers
          | noParserTable notTable => simp [isTable] at notTable
          | parserTable same shows =>
              obtain rfl := Setting.table.inj (isTable.symm.trans same)
              exact shows

/-- A single character is never the one known key. -/
theorem unknownNames_singletons_eq_nil_iff {value : String} :
    unknownNames ["parser"] (value.toList.map String.singleton) = [] ↔ value = "" := by
  constructor
  · intro none
    by_contra notEmpty
    obtain ⟨char, rest, chars⟩ :=
      List.exists_cons_of_ne_nil (mt String.toList_eq_nil_iff.mp notEmpty)
    have notParser : String.singleton char ≠ "parser" := by
      intro same
      have lengths := congrArg (fun text => text.toList.length) same
      simp at lengths
    have unknown : String.singleton char ∈
        unknownNames ["parser"] (value.toList.map String.singleton) := by
      rw [unknownNames, Text.mem_sortedDistinct, List.mem_filter]
      exact ⟨by simp [chars], by simp [notParser]⟩
    simp [none] at unknown
  · rintro rfl
    rfl

theorem isAnswer_ofSection_text_iff {place value : String} :
    IsAnswer (ofSection place (.text value)) ↔ IsReportable (.text value) := by
  unfold ofSection
  simp only [unknownKeys]
  cases named : unknownNames ["parser"] (value.toList.map String.singleton) with
  | nil =>
      obtain rfl := unknownNames_singletons_eq_nil_iff.mp named
      refine ⟨False.elim, ?_⟩
      intro reportable
      cases reportable with
      | text notEmpty => exact absurd rfl notEmpty
  | cons first others =>
      have notEmpty : value ≠ "" := by
        intro empty
        rw [unknownNames_singletons_eq_nil_iff.mpr empty] at named
        cases named
      refine ⟨fun _ => .text notEmpty, fun _ => ?_⟩
      simp only [List.map_cons]
      rw [isAnswer_ofComplaints_iff]
      intro complaint member
      rw [← List.map_cons, ← List.map_cons, List.map_map] at member
      obtain ⟨key, -, rfl⟩ := List.mem_map.mp member
      rfl

/-! ### Lists -/

theorem not_isAnswer_of_rankedItem {item : Setting} {error : LoadError}
    (fails : rankedItem item = .error error) : ¬IsAnswer (.error error) := by
  unfold rankedItem at fails
  split at fails
  · cases fails
  · cases fails
    exact False.elim

theorem not_isAnswer_of_insertRanked {item : Setting × Rank} {sorted : List (Setting × Rank)}
    {error : LoadError} (fails : insertRanked item sorted = .error error) :
    ¬IsAnswer (.error error) := by
  induction sorted generalizing error with
  | nil => cases fails
  | cons first rest ih =>
      rw [insertRanked] at fails
      split at fails
      · cases fails
      · split at fails
        · cases fails
          exact False.elim
        · cases fails
        · cases inserted : insertRanked item rest with
          | error deeper =>
              rw [inserted] at fails
              cases fails
              exact ih inserted
          | ok others =>
              rw [inserted] at fails
              cases fails

section Failing

variable {Error Item State : Type}

theorem exists_of_mapM_eq_error {step : Item → Except Error State} {items : List Item}
    {error : Error} (fails : items.mapM step = .error error) :
    ∃ item ∈ items, step item = .error error := by
  induction items with
  | nil => cases fails
  | cons item items ih =>
      rw [List.mapM_cons] at fails
      cases first : step item with
      | error own =>
          rw [first] at fails
          cases fails
          exact ⟨item, List.mem_cons_self, first⟩
      | ok value =>
          cases rest : items.mapM step with
          | error deeper =>
              rw [first, rest] at fails
              cases fails
              obtain ⟨later, member, failsLater⟩ := ih rest
              exact ⟨later, List.mem_cons_of_mem item member, failsLater⟩
          | ok values =>
              rw [first, rest] at fails
              cases fails

theorem exists_of_foldlM_eq_error {step : State → Item → Except Error State} {items : List Item}
    {state : State} {error : Error} (fails : items.foldlM step state = .error error) :
    ∃ before, ∃ item ∈ items, step before item = .error error := by
  induction items generalizing state with
  | nil => cases fails
  | cons item items ih =>
      rw [List.foldlM_cons] at fails
      cases first : step state item with
      | error own =>
          rw [first] at fails
          cases fails
          exact ⟨state, item, List.mem_cons_self, first⟩
      | ok next =>
          rw [first] at fails
          obtain ⟨before, later, member, failsLater⟩ := ih fails
          exact ⟨before, later, List.mem_cons_of_mem item member, failsLater⟩

end Failing

/-- What keeps the unknown items of a list from being listed is no complaint. -/
theorem not_isAnswer_of_unknownItems {known : List String} {items : List Setting}
    {error : LoadError} (fails : unknownItems known items = .error error) :
    ¬IsAnswer (.error error) := by
  rw [unknownItems] at fails
  cases ranking : items.mapM rankedItem with
  | error early =>
      rw [ranking] at fails
      cases fails
      obtain ⟨item, -, failsThere⟩ := exists_of_mapM_eq_error ranking
      exact not_isAnswer_of_rankedItem failsThere
  | ok ranked =>
      rw [ranking] at fails
      cases sorting : (ranked.filter (!isKnown known ·)).foldlM
          (fun sorted item => insertRanked item sorted) [] with
      | error late =>
          simp only [bind, Except.bind, sorting] at fails
          cases fails
          obtain ⟨sorted, item, -, failsThere⟩ := exists_of_foldlM_eq_error sorting
          exact not_isAnswer_of_insertRanked failsThere
      | ok sorted =>
          simp only [bind, Except.bind, sorting] at fails
          cases fails

-- The list of unknown items must be computed before it can be seen whether it is empty, so that an
-- error on the way is one of the section.
theorem isAnswer_ofSection_list_iff {place : String} {items : List Setting} :
    IsAnswer (ofSection place (.list items)) ↔ IsReportable (.list items) := by
  unfold ofSection
  rw [unknownKeys]
  cases listed : unknownItems ["parser"] items with
  | error error =>
      refine ⟨fun answer => absurd answer (not_isAnswer_of_unknownItems listed), ?_⟩
      intro reportable
      cases reportable with
      | list found => cases listed.symm.trans found
  | ok unknown =>
      cases unknown with
      | nil =>
          refine ⟨False.elim, ?_⟩
          intro reportable
          cases reportable with
          | list found some => exact absurd (Except.ok.inj (found.symm.trans listed)) some
      | cons first others =>
          simp only
          rw [isAnswer_ofComplaints_iff, List.forall_mem_map]
          constructor
          · intro writable
            exact .list listed (List.cons_ne_nil first others) writable
          · intro reportable
            cases reportable with
            | list found some writable =>
                obtain rfl := Except.ok.inj (listed.symm.trans found)
                exact writable

theorem isAnswer_ofSection_iff {place : String} {value : Setting} :
    IsAnswer (ofSection place value) ↔ IsReportable value := by
  cases value with
  | table entries => exact isAnswer_ofSection_table_iff
  | text value => exact isAnswer_ofSection_text_iff
  | list items => exact isAnswer_ofSection_list_iff
  | _ =>
      refine ⟨False.elim, ?_⟩
      intro reportable
      cases reportable

/-! ## Files -/

/-- A content of a settings file that loading answers: a text that is simply no document, or a
document with a section in which all that is wrong can be complained about. -/
inductive IsAnswered (path : Path) (content : List UInt8) : Prop where
  | malformed {text : List Char} :
      Text.decode content = .ok text →
      Toml.read (String.ofList (Text.unifyLineEnds text)) = .error .malformed →
      IsAnswered path content
  | document {text : List Char} {document : List (String × Setting)} {value : Setting} :
      Text.decode content = .ok text →
      Toml.read (String.ofList (Text.unifyLineEnds text)) = .ok document →
      sectionOf? path document = some value → IsReportable value → IsAnswered path content

theorem isAnswer_ofDocument_iff {path : Path} {document : List (String × Setting)} :
    IsAnswer (ofDocument path document) ↔
      ∃ value, sectionOf? path document = some value ∧ IsReportable value := by
  cases found : sectionOf? path document with
  | none =>
      rw [ofDocument_of_sectionOf?_eq_none found]
      simp [IsAnswer]
  | some value =>
      rw [ofDocument_of_sectionOf? found, isAnswer_ofSection_iff]
      simp

theorem isAnswer_content_iff {path : Path} {content : List UInt8} :
    IsAnswer (match documentOf path content with
      | .error error => .error error
      | .ok document => ofDocument path document) ↔ IsAnswered path content := by
  unfold documentOf
  cases decoded : Text.decode content with
  | error fault =>
      refine ⟨False.elim, ?_⟩
      rintro (⟨same, -⟩ | ⟨same, -, -, -⟩) <;> cases decoded.symm.trans same
  | ok text =>
      simp only
      cases read : Toml.read (String.ofList (Text.unifyLineEnds text)) with
      | ok document =>
          simp only
          rw [isAnswer_ofDocument_iff]
          constructor
          · rintro ⟨value, found, reportable⟩
            exact .document decoded read found reportable
          · rintro (⟨same, malformed⟩ | ⟨same, readSame, found, reportable⟩)
            all_goals obtain rfl := Except.ok.inj (decoded.symm.trans same)
            · cases read.symm.trans malformed
            · obtain rfl := Except.ok.inj (read.symm.trans readSame)
              exact ⟨_, found, reportable⟩
      | error failure =>
          cases failure with
          | malformed => exact ⟨fun _ => .malformed decoded read, fun _ => trivial⟩
          | duplicateKey | redefinedTable =>
              refine ⟨False.elim, ?_⟩
              rintro (⟨same, readSame⟩ | ⟨same, readSame, -, -⟩)
              all_goals
                obtain rfl := Except.ok.inj (decoded.symm.trans same)
                cases read.symm.trans readSame

theorem isAnswer_load_iff {tree : FileTree} {workingDirectory : List String} {path : Path} :
    IsAnswer (load tree workingDirectory path) ↔
      path.holdsNull = false ∧
        ∀ content, tree.read workingDirectory path = .ok content → IsAnswered path content := by
  unfold load
  cases usable : path.holdsNull with
  | true => simp [IsAnswer]
  | false =>
      simp only [Bool.false_eq_true, if_false, true_and]
      cases read : tree.read workingDirectory path with
      | error fault =>
          refine ⟨fun _ content same => ?_, fun _ => trivial⟩
          cases same
      | ok content =>
          simp only [Except.ok.injEq, forall_eq']
          exact isAnswer_content_iff

end Settings

namespace CommandLine

open Settings

variable {world : World} {choices : GlobalChoices}

theorem chooseFile_of_settingsFile? {path : Path}
    (named : settingsFile? world choices = some path) :
    chooseFile world choices = .ok (some path) := by
  rw [settingsFile?] at named
  split at named
  case h_1 file chosen => rw [chosen, named]
  case h_2 => cases named

theorem options_of_load_eq_error {path : Path} {error : LoadError}
    (named : settingsFile? world choices = some path)
    (fails : load world.files world.workingDirectory path = .error error) :
    CommandLine.options world choices = .error error := by
  simp only [CommandLine.options, chooseFile_of_settingsFile? named, fileOptions, fails]

theorem options_of_load_eq_ok {path : Path} {file : Options}
    (named : settingsFile? world choices = some path)
    (loaded : load world.files world.workingDirectory path = .ok file) :
    CommandLine.options world choices = resolve file choices.flags world.environment := by
  simp only [CommandLine.options, chooseFile_of_settingsFile? named, fileOptions, loaded]

/-- A run with a settings file ends with a report exactly if the file is answered, and with options
only if a complaint about the flags could be shown. -/
theorem exists_run_iff {task : Task} {path : Path}
    (named : settingsFile? world choices = some path) :
    (∃ report, Invocation.run world ⟨choices, task⟩ = .ok report) ↔
      IsAnswer (load world.files world.workingDirectory path) ∧
        (ShowsDepth choices.flags ∨ ∃ complaints,
          load world.files world.workingDirectory path = .error (.refused complaints)) := by
  cases loaded : load world.files world.workingDirectory path with
  | error error =>
      have fails := options_of_load_eq_error named loaded
      cases error with
      | refused complaints =>
          obtain ⟨report, -, -, runs⟩ := exists_report_of_refused fails
          exact iff_of_true ⟨report, runs task⟩ ⟨trivial, .inr ⟨complaints, rfl⟩⟩
      | _ => simp [Invocation.run, fails, IsAnswer]
  | ok file =>
      have settled := options_of_load_eq_ok named loaded
      by_cases shows : ShowsDepth choices.flags
      case neg =>
        rw [resolve_of_not_showsDepth shows file] at settled
        simp [Invocation.run, settled, shows]
      case pos =>
        refine iff_of_true ?_ ⟨trivial, .inl shows⟩
        cases resolved : resolve file choices.flags world.environment with
        | ok options =>
            obtain ⟨report, -, runs, -⟩ :=
              exists_run_eq_of_resolved (settled.trans resolved) task
            exact ⟨report, runs⟩
        | error error =>
            obtain ⟨complaints, rfl, -⟩ := exists_complaints_of_resolve shows resolved
            obtain ⟨report, -, -, runs⟩ := exists_report_of_refused (settled.trans resolved)
            exact ⟨report, runs task⟩

/-! ## Main results -/

/-- Loading a settings file ends with options or complaints exactly if the path can be looked up
and the content, if there is any, is answered. In just these cases a run with this file ends with a
report, unless the file is accepted and a flag is too long to be shown, which no command line brings
about. If the answer is complaints, the report is one of them with code two. -/
theorem settings_failures_reported_iff (world : World) (choices : GlobalChoices) (path : Path) :
    (((∃ options, load world.files world.workingDirectory path = .ok options) ∨
        ∃ complaints, load world.files world.workingDirectory path =
          .error (.refused complaints)) ↔
      path.holdsNull = false ∧
        ∀ content, world.files.read world.workingDirectory path = .ok content →
          IsAnswered path content) ∧
    (settingsFile? world choices = some path → ∀ task,
      ((∃ report, Invocation.run world ⟨choices, task⟩ = .ok report) ↔
        (path.holdsNull = false ∧
          ∀ content, world.files.read world.workingDirectory path = .ok content →
            IsAnswered path content) ∧
        (ShowsDepth choices.flags ∨ ∃ complaints,
          load world.files world.workingDirectory path = .error (.refused complaints))) ∧
      (∀ arguments, Invocation.read arguments = .ok ⟨choices, task⟩ → ShowsDepth choices.flags) ∧
      ∀ complaints,
        load world.files world.workingDirectory path = .error (.refused complaints) →
        ∃ report : Report, report.ending.code = 2 ∧
          report.output = Text.printedLine ("error: " ++ Complaint.report complaints) ∧
          Invocation.run world ⟨choices, task⟩ = .ok report) := by
  constructor
  · rw [← isAnswer_load_iff, isAnswer_iff]
  · intro named task
    refine ⟨?_, fun _ reads => showsDepth_of_read reads, ?_⟩
    · rw [exists_run_iff named, isAnswer_load_iff]
    · intro complaints refused
      have fails := options_of_load_eq_error named refused
      obtain ⟨report, ending, output, runs⟩ := exists_report_of_refused fails
      exact ⟨report, by rw [ending]; rfl, output, runs task⟩

/-- The settings file that is named does not exist. -/
theorem missing_settings_file_reported :
    load .empty [] (Path.ofText "a.toml") =
      .error (.refused [.unreadable (Path.ofText "a.toml") .missing]) ∧
    ∃ report : Report, report.ending.code = 2 ∧
      Invocation.run ⟨.empty, [], []⟩ ⟨{ config := some "a.toml" }, .ids "MIT"⟩ = .ok report := by
  have usable : (Path.ofText "a.toml").holdsNull = false := by decide +kernel
  have read : FileTree.empty.read [] (Path.ofText "a.toml") = .error .missing := by
    decide +kernel
  have missing : load .empty [] (Path.ofText "a.toml") =
      .error (.refused [.unreadable (Path.ofText "a.toml") .missing]) := by
    simp only [load, usable, read, Bool.false_eq_true, if_false]
  obtain ⟨-, ofRun⟩ := settings_failures_reported_iff ⟨.empty, [], []⟩
    { config := some "a.toml" } (Path.ofText "a.toml")
  obtain ⟨-, -, reports⟩ := ofRun rfl (.ids "MIT")
  obtain ⟨report, code, -, runs⟩ := reports _ missing
  exact ⟨missing, report, code, runs⟩

/-- The byte 255 is not UTF-8: loading a file with it fails without complaints. -/
theorem undecodable_settings_file_not_reported :
    load (.directory [("licensekit.toml", .file [255])]) [] ⟨0, ["licensekit.toml"]⟩ =
      .error (.undecodable ⟨255, 0, 1, .invalidStart⟩) ∧
    ¬∀ (tree : FileTree) (workingDirectory : List String) (path : Path),
      (∃ options, load tree workingDirectory path = .ok options) ∨
        ∃ complaints, load tree workingDirectory path = .error (.refused complaints) := by
  have usable : Path.holdsNull ⟨0, ["licensekit.toml"]⟩ = false := by decide
  have read : FileTree.read (.directory [("licensekit.toml", .file [255])]) []
      ⟨0, ["licensekit.toml"]⟩ = .ok [255] := by decide +kernel
  have undecodable : Text.decode [255] = .error ⟨255, 0, 1, .invalidStart⟩ := by decide
  have fails : load (.directory [("licensekit.toml", .file [255])]) []
      ⟨0, ["licensekit.toml"]⟩ = .error (.undecodable ⟨255, 0, 1, .invalidStart⟩) := by
    simp only [load, usable, read, documentOf, undecodable, Bool.false_eq_true, if_false]
  refine ⟨fails, ?_⟩
  intro always
  rcases always _ _ _ with ⟨options, loaded⟩ | ⟨complaints, refused⟩
  · cases fails.symm.trans loaded
  · cases fails.symm.trans refused

end CommandLine

end LicenseExpr
