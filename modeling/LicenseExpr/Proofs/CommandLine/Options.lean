import LicenseExpr.Proofs.CommandLine.Displays

/-!
# The options of a run

A run that gets as far as its task uses the options of the first layer that
decides, each option for itself.  Everything bad in the environment and the
flags is complained about, even where a higher layer decides, and an integer
means the same in every layer.  Only a flag that is too long to be shown is
beyond complaining, and no command line has one.
-/

namespace LicenseExpr.CommandLine

open Settings

variable {world : World} {choices : GlobalChoices} {task : Task} {report : Report}

theorem exists_options_of_run (runs : Invocation.run world ⟨choices, task⟩ = .ok report)
    (reached : report.ending ≠ .refused) :
    ∃ options, CommandLine.options world choices = .ok options := by
  cases resolved : CommandLine.options world choices with
  | ok options => exact ⟨options, rfl⟩
  | error error =>
      cases error with
      | refused complaints =>
          obtain ⟨refusal, ending, -, runsSame⟩ := exists_report_of_refused resolved
          obtain rfl := Except.ok.inj (runs.symm.trans (runsSame task))
          exact absurd ending reached
      | _ => simp [Invocation.run, resolved] at runs

/-- A run that gets as far as its task carries it out with options that are settled. -/
theorem exists_done_of_run (runs : Invocation.run world ⟨choices, task⟩ = .ok report)
    (reached : report.ending ≠ .refused) :
    ∃ options done, CommandLine.options world choices = .ok options ∧
      task.run (choices.logSetup world.environment) options = .ok done ∧
      report.ending = done.ending ∧ report.output = done.output := by
  obtain ⟨options, resolved⟩ := exists_options_of_run runs reached
  obtain ⟨same, done, runsSame, finishes, ending, output⟩ :=
    exists_run_eq_of_resolved resolved task
  obtain rfl := Except.ok.inj (runs.symm.trans runsSame)
  exact ⟨options, done, resolved, finishes, ending, output⟩

/-- Flags and variables are refused exactly if one of them is bad. -/
theorem exists_refused_iff {file : Options} {flags : Flags} {environment : Environment}
    (shows : ShowsDepth flags) :
    (∃ complaints, resolve file flags environment = .error (.refused complaints)) ↔
      HasBadVariable environment ∨ HasBadFlag flags := by
  constructor
  · rintro ⟨complaints, refused⟩
    exact exists_resolve_eq_error_iff.mp ⟨_, refused⟩
  · intro bad
    obtain ⟨error, refused⟩ : ∃ error, resolve file flags environment = .error error :=
      exists_resolve_eq_error_iff.mpr bad
    obtain ⟨complaints, rfl, -⟩ := exists_complaints_of_resolve shows refused
    exact ⟨complaints, refused⟩

/-- The options that a run uses are those of the flags, the environment, the settings file and the
defaults, in this order and each for itself, and the depth is within its range. What is bad in the
environment or the flags is complained about once, in this order, unless the depth of the flags is
too long to be shown, which no command line brings about. An integer is accepted as the depth or
complained about alike, wherever it stands. -/
theorem options_of_first_deciding_layer :
    (∀ (world : World) (choices : GlobalChoices) (task : Task) (report : Report),
      Invocation.run world ⟨choices, task⟩ = .ok report → report.ending ≠ .refused →
      ∃ (options : Options) (entries : List (String × Setting)) (done : Report),
        CommandLine.options world choices = .ok options ∧
        task.run (choices.logSetup world.environment) options = .ok done ∧
        report.ending = done.ending ∧ report.output = done.output ∧
        HasParserTable world entries (choices.config.map Path.ofText <|>
          discover? world.files world.workingDirectory (Path.ofText "")) ∧
        options.maxDepth = firstDecided [choices.maxDepth.join, variableDepth? world.environment,
          integerUnder? "max_depth" entries] 64 ∧
        options.anyCase = firstDecided [if choices.anyCase then some true else none,
          environmentCase world.environment,
          booleanUnder? "case_insensitive_operators" entries] false ∧
        IsDepth options.maxDepth ∧ min options.maxDepth depthCap = options.maxDepth) ∧
    (∀ (file : Options) (flags : Flags) (environment : Environment), ShowsDepth flags →
      ((∃ complaints, resolve file flags environment = .error (.refused complaints)) ↔
        HasBadVariable environment ∨ HasBadFlag flags) ∧
      ∀ error, resolve file flags environment = .error error →
        ∃ complaints, error = .refused complaints ∧
          complaints.map Complaint.place =
            (if HasBadVariable environment then [depthVariable] else []) ++
              if HasBadFlag flags then [depthFlag] else []) ∧
    (∀ (file : Options) (flags : Flags) (environment : Environment), ¬ShowsDepth flags →
      resolve file flags environment = .error .integerTooLong) ∧
    (∀ arguments invocation, Invocation.read arguments = .ok invocation →
      ShowsDepth invocation.choices.flags) ∧
    ∀ number : Int, (Text.decimalDigits number.natAbs).length ≤ 4300 →
      (∀ (place : String) (entries : List (String × Setting)) (anyCase : Bool),
        entries.lookup "max_depth" = some (.integer number) → strangersOf place entries = [] →
        anyCaseOf place entries = .ok anyCase →
        ofParserTable place entries =
          if IsDepth number then .ok ⟨number, anyCase⟩
          else .error (.refused [.depthOutOfRange place number])) ∧
      (∀ (file : Options) (environment : Environment),
        environment.lookup depthVariable = some (Text.integerText number) →
        resolve file {} environment =
          if IsDepth number then .ok ⟨number, (environmentCase environment).getD file.anyCase⟩
          else .error (.refused [.depthOutOfRange depthVariable number])) ∧
      (∀ command ∈ ["parse", "ids"], ∀ arguments,
        Invocation.read ("--max-depth" :: Text.integerText number :: command :: arguments) =
          (Invocation.read (command :: arguments)).map fun invocation =>
            { invocation with
              choices := { invocation.choices with maxDepth := some (some number) } }) ∧
      ∀ (choices : GlobalChoices) (file : Options) (environment : Environment),
        choices.maxDepth = some (some number) → choices.anyCase = false →
        environment.lookup depthVariable = none →
        resolve file choices.flags environment =
          if IsDepth number then .ok ⟨number, (environmentCase environment).getD file.anyCase⟩
          else .error (.refused [.depthOutOfRange depthFlag number]) := by
  refine ⟨?_, ?_, ?_, fun _ _ => showsDepth_of_read, ?_⟩
  · intro world choices task report runs reached
    obtain ⟨options, done, resolved, finishes, ending, output⟩ := exists_done_of_run runs reached
    obtain ⟨entries, table, isDepth, depth, anyCase⟩ := exists_layers_of_options resolved
    refine ⟨options, entries, done, resolved, finishes, ending, output, ?_, depth, anyCase,
      isDepth, min_eq_left isDepth.2⟩
    rwa [← settingsFile?_of_options resolved]
  · intro file flags environment shows
    exact ⟨exists_refused_iff shows, fun error => exists_complaints_of_resolve shows⟩
  · intro file flags environment hidden
    exact resolve_of_not_showsDepth hidden file
  · intro number short
    have writable : Text.hasWritableLength number = true := Text.hasWritableLength_iff.mpr short
    refine ⟨?_, ?_, ?_, ?_⟩
    · intro place entries anyCase found known settled
      exact ofParserTable_of_integer found known settled writable
    · intro file environment found
      exact resolve_of_integerText found writable file
    · intro command known arguments
      exact read_maxDepth_cons writable known arguments
    · intro choices file environment chosen undecided unset
      have flags : choices.flags = ⟨some (.integer number), none⟩ := by
        simp [GlobalChoices.flags, chosen, undecided, depthSetting]
      rw [flags]
      exact resolve_of_integer unset writable file

/-- A flag wins over a variable, another variable decides beside it, a bad variable and a bad flag
are both complained about, and 101 is no depth anywhere. -/
theorem options_of_flag_and_variables :
    (∃ options, CommandLine.options
        ⟨.empty, [], [(depthVariable, " 7 "), (caseVariable, "Yes")]⟩
        { maxDepth := some (some 3) } = .ok options ∧
      options.maxDepth = 3 ∧ options.anyCase = true) ∧
    (∃ complaints, resolve {} ⟨some (.boolean true), none⟩ [(depthVariable, "seven")] =
        .error (.refused complaints) ∧
      complaints.map Complaint.place = [depthVariable, depthFlag]) ∧
    ofParserTable "here" [("max_depth", .integer 101)] =
      .error (.refused [.depthOutOfRange "here" 101]) ∧
    resolve {} {} [(depthVariable, Text.integerText 101)] =
      .error (.refused [.depthOutOfRange depthVariable 101]) ∧
    Invocation.read ["--max-depth", Text.integerText 101, "ids", "MIT"] =
      .ok ⟨{ maxDepth := some (some 101) }, .ids "MIT"⟩ ∧
    resolve {} (GlobalChoices.flags { maxDepth := some (some 101) }) [] =
      .error (.refused [.depthOutOfRange depthFlag 101]) := by
  have resolved : CommandLine.options
      ⟨.empty, [], [(depthVariable, " 7 "), (caseVariable, "Yes")]⟩
      { maxDepth := some (some 3) } = .ok ⟨3, true⟩ :=
    options_of_empty_of_good rfl (by decide +kernel) (by decide +kernel) (by decide +kernel)
  have bad : HasBadVariable [(depthVariable, "seven")] := by decide +kernel
  have shows : ShowsDepth ⟨some (.boolean true), none⟩ := by decide
  have short : (Text.decimalDigits (101 : Int).natAbs).length ≤ 4300 := by
    simp [Text.decimalDigits]
  have read : Invocation.read ["ids", "MIT"] = .ok ⟨{}, .ids "MIT"⟩ := by decide +kernel
  obtain ⟨report, done, runs, finishes, ending, -⟩ :=
    exists_run_eq_of_resolved resolved (.ids "MIT")
  obtain ⟨layers, refuses, -, -, integers⟩ := options_of_first_deciding_layer
  obtain ⟨inFile, inEnvironment, onCommandLine, asFlag⟩ := integers 101 short
  refine ⟨?_, ?_, ?_, ?_, ?_, ?_⟩
  · have parsed : parse ⟨3, true⟩ "MIT" = .ok (.valid (.identifier "MIT")) :=
      parse_eq_valid_of_derives (by decide +kernel)
        ((Grammar.Derives.identifier _).of_primary .orExpr) trivial
    simp only [Task.run, runIds, parsed] at finishes
    obtain rfl := Except.ok.inj finishes
    have reached : report.ending ≠ .refused := by
      rw [ending]
      decide
    obtain ⟨options, entries, -, found, -, -, -, -, depth, anyCase, -, -⟩ :=
      layers _ _ _ report runs reached
    have yes : environmentCase [(depthVariable, " 7 "), (caseVariable, "Yes")] = some true := by
      decide +kernel
    simp only [yes] at anyCase
    exact ⟨options, found, depth, anyCase⟩
  · obtain ⟨refusedIff, places⟩ := refuses {} _ [(depthVariable, "seven")] shows
    obtain ⟨complaints, refused⟩ := refusedIff.mpr (.inl bad)
    obtain ⟨_, same, placesEq⟩ := places _ refused
    obtain rfl := LoadError.refused.inj same
    refine ⟨complaints, refused, placesEq.trans ?_⟩
    rw [if_pos bad]
    decide
  · exact inFile "here" _ false rfl rfl rfl
  · exact inEnvironment {} _ rfl
  · rw [onCommandLine "ids" (by decide), read]
    rfl
  · exact asFlag _ {} [] rfl rfl rfl

end LicenseExpr.CommandLine
