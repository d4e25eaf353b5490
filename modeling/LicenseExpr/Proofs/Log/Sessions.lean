import Mathlib.Data.List.Induction
import LicenseExpr.Log.Session
import LicenseExpr.Proofs.Grammar.CorrectPrefix

/-!
# Records of invalid expressions

What a step of a session writes is decided by the last set-up before it, and by
nothing else that happened before.  Parsing writes at most one record, and it
does so only if the expression is invalid and the last set-up is verbose.
-/

namespace LicenseExpr.Log

/-! ## The last set-up -/

/-- How a step sets up logging, if it does. -/
def Step.chosen? : Step → Option (Choices × Environment)
  | .configure choices environment => some (choices, environment)
  | .emit _ | .parse _ _ => none

/-- How logging is set up by the last of the steps that do so. -/
def lastChosen? (steps : List Step) : Option (Choices × Environment) :=
  (steps.filterMap Step.chosen?).getLast?

/-- Logging as it is after the last set-up, or as it is at first without one. -/
def Setup.ofChosen : Option (Choices × Environment) → Setup
  | none => .initial
  | some (choices, environment) => .ofChoices choices environment

theorem setupAfter_concat (before : Setup) (steps : List Step) (step : Step) :
    setupAfter before (steps ++ [step]) = step.setup (setupAfter before steps) := by
  simp [setupAfter]

theorem lastChosen?_concat (steps : List Step) (step : Step) :
    lastChosen? (steps ++ [step]) = step.chosen?.or (lastChosen? steps) := by
  cases step <;> simp [lastChosen?, Step.chosen?, List.filterMap_append]

theorem Step.setup_ofChosen (step : Step) (chosen? : Option (Choices × Environment)) :
    step.setup (.ofChosen chosen?) = .ofChosen (step.chosen?.or chosen?) := by
  cases step <;> rfl

/-- However long a run is, only its last set-up shows. -/
theorem setupAfter_initial (steps : List Step) :
    setupAfter .initial steps = .ofChosen (lastChosen? steps) := by
  induction steps using List.reverseRecOn with
  | nil => rfl
  | append_singleton steps step ih =>
      rw [setupAfter_concat, lastChosen?_concat, ih, Step.setup_ofChosen]

/-- Each step of a run writes what it writes under the set-up that the steps before it lead to. -/
theorem session_getElem?_append (before : Setup) (earlier later : List Step) (step : Step) :
    (session before (earlier ++ step :: later))[earlier.length]? =
      some (step.records (setupAfter before earlier)) := by
  induction earlier generalizing before with
  | nil => rfl
  | cons first rest ih => simpa [session, setupAfter] using ih (first.setup before)

/-! ## What a set-up lets through -/

/-- The last set-up chose to be verbose, and not to be quiet. -/
def IsVerbose (chosen? : Option (Choices × Environment)) : Prop :=
  ∃ chosen ∈ chosen?, chosen.1.verbose = true ∧ chosen.1.quiet = false

/-- Neither the last set-up nor its environment turned truncation off. -/
def IsTruncating (chosen? : Option (Choices × Environment)) : Prop :=
  ∃ chosen ∈ chosen?, chosen.1.truncateValues = true ∧
    chosen.2.lookup Setup.truncationVariable ≠ some "0"

instance (chosen? : Option (Choices × Environment)) : Decidable (IsVerbose chosen?) :=
  inferInstanceAs (Decidable (∃ _ ∈ chosen?, _))

instance (chosen? : Option (Choices × Environment)) : Decidable (IsTruncating chosen?) :=
  inferInstanceAs (Decidable (∃ _ ∈ chosen?, _))

theorem writes_debug_ofChosen (chosen? : Option (Choices × Environment)) :
    (Setup.ofChosen chosen?).writes .debug = decide (IsVerbose chosen?) := by
  cases chosen? with
  | none =>
      simp [Setup.ofChosen, Setup.initial, Setup.writes, Setup.outlet, Level.severity, IsVerbose]
  | some chosen =>
      obtain ⟨⟨verbose, quiet, _⟩, _⟩ := chosen
      cases verbose <;> cases quiet <;>
        simp [Setup.ofChosen, Setup.ofChoices, Setup.writes, Setup.outlet, Level.severity,
          IsVerbose]

theorem truncating_ofChosen (chosen : Choices × Environment) :
    (Setup.ofChosen (some chosen)).truncating = decide (IsTruncating (some chosen)) := by
  obtain ⟨⟨_, _, truncateValues⟩, environment⟩ := chosen
  cases given : environment.lookup Setup.truncationVariable <;> cases truncateValues <;>
    simp [Setup.ofChosen, Setup.ofChoices, Environment.valueOr, IsTruncating, given, bne,
      beq_eq_decide]

/-! ## The record of an invalid expression -/

/-- A text as a record shows it. -/
def shown (truncating : Bool) (text : String) : String :=
  if truncating ∧ 200 < text.length then
    String.ofList (text.toList.take 200 ++ cutMark (text.length - 200))
  else text

/-- All that is written about an invalid expression. -/
def invalidRecord (truncating : Bool) (expression : String) (error : SyntaxError) : Fields :=
  [("expression", .text (shown truncating expression)),
    ("token", .integer error.index),
    ("detail", .text (shown truncating error.fault.detail)),
    ("event", .text "license_expression_invalid"),
    ("level", .text "debug"),
    ("logger", .text "licensekit.parser")]

theorem shown_eq (truncating : Bool) (text : String) :
    shown truncating text = if truncating then String.ofList (truncated text.toList) else text := by
  simp only [shown, truncated, lengthLimit, String.length_toList]
  cases truncating with
  | false => rfl
  | true =>
      by_cases short : text.length ≤ 200
      · simp [short, Nat.not_lt.mpr short]
      · simp [short, Nat.lt_of_not_le short]

theorem shorten_allFields_event (setup : Setup) (expression : String) (error : SyntaxError) :
    setup.shorten (error.event expression).allFields =
      invalidRecord setup.truncating expression error := by
  have all : (error.event expression).allFields =
      [("expression", .text expression), ("token", .integer error.index),
        ("detail", .text error.fault.detail), ("event", .text "license_expression_invalid"),
        ("level", .text "debug"), ("logger", .text "licensekit.parser")] := by
    simp [SyntaxError.event, Event.allFields, Fields.setAll, Fields.set, eventKey, Level.name]
  simp only [Setup.shorten, all, invalidRecord, shown_eq]
  cases setup.truncating with
  | false => rfl
  | true => simp [Fields.truncate, truncatedValue, truncated, lengthLimit, eventKey]

theorem write_event_ofChosen (chosen? : Option (Choices × Environment)) (expression : String)
    (error : SyntaxError) :
    (Setup.ofChosen chosen?).write (error.event expression) =
      if IsVerbose chosen? then [invalidRecord (IsTruncating chosen?) expression error]
      else [] := by
  have level : (error.event expression).level = .debug := rfl
  rw [Setup.write, level, writes_debug_ofChosen, shorten_allFields_event]
  cases chosen? with
  | none => simp [IsVerbose]
  | some chosen => simp only [truncating_ofChosen, decide_eq_true_eq]

/-- Wherever a session parses a text, the records are settled by the text, the options and the
last set-up before.  Nothing is written about a valid expression; about an invalid one there is
a single record if that set-up is verbose, which tells the error that strict parsing ends with. -/
theorem session_records_of_parse (chosen? : Option (Choices × Environment)) (options : Options)
    (text : String) :
    ∃ records : List Fields,
      (∀ earlier later, lastChosen? earlier = chosen? →
        (session .initial (earlier ++ .parse options text :: later))[earlier.length]? =
          some records) ∧
      (∀ tree, parse options text = .ok (.valid tree) → records = []) ∧
      (parse options text = .ok .invalid →
        ∃ error, parse? options text = .error (.syntaxError error) ∧
          (IsVerbose chosen? →
            records = [invalidRecord (IsTruncating chosen?) text error]) ∧
          (¬IsVerbose chosen? → records = [])) := by
  refine ⟨parseRecords (.ofChosen chosen?) options text, ?_, ?_, ?_⟩
  · intro earlier later last
    rw [session_getElem?_append, setupAfter_initial, last]
    rfl
  · intro tree valid
    rw [parse_eq_valid_iff] at valid
    simp [parseRecords, valid]
  · intro invalid
    obtain ⟨error, fails⟩ := parse_eq_invalid_iff.mp invalid
    refine ⟨error, fails, fun verbose => ?_, fun notVerbose => ?_⟩
    · simp [parseRecords, fails, write_event_ofChosen, verbose]
    · simp [parseRecords, fails, write_event_ofChosen, notVerbose]

/-- The quiet set-up leaves no trace. -/
theorem session_records_of_open_parenthesis :
    lastChosen? [.configure ⟨true, true, false⟩ [], .configure ⟨true, false, true⟩ []] =
        some (⟨true, false, true⟩, []) ∧
      parse {} "(" = .ok .invalid ∧ IsVerbose (some (⟨true, false, true⟩, [])) ∧
      (session .initial ([.configure ⟨true, true, false⟩ [], .configure ⟨true, false, true⟩ []] ++
          [.parse {} "("]))[2]? =
        some [[("expression", .text "("), ("token", .integer 1),
          ("detail", .text "unexpected end of expression, expected identifier or \"(\""),
          ("event", .text "license_expression_invalid"), ("level", .text "debug"),
          ("logger", .text "licensekit.parser")]] := by
  have last : lastChosen? [.configure ⟨true, true, false⟩ [], .configure ⟨true, false, true⟩ []] =
      some (⟨true, false, true⟩, []) := rfl
  have awaits : Grammar.Awaits 64 [.openParen] .orExpr 1 :=
    .group Grammar.Awaits.start.first_operand (by decide)
  have fails : parse? {} "(" = .error (.syntaxError ⟨1, .endOfExpression⟩) :=
    parse?_eq_syntaxError (by decide +kernel) (.noOperand awaits.first_operand .nil) rfl
  have invalid : parse {} "(" = .ok .invalid := parse_eq_invalid_iff.mpr ⟨_, fails⟩
  have verbose : IsVerbose (some (⟨true, false, true⟩, [])) := by decide
  obtain ⟨records, found, -, onInvalid⟩ :=
    session_records_of_parse (some (⟨true, false, true⟩, [])) {} "("
  obtain ⟨error, failsWith, written, -⟩ := onInvalid invalid
  cases fails.symm.trans failsWith
  refine ⟨last, invalid, verbose, (found _ [] last).trans ?_⟩
  rw [written verbose]
  rfl

end LicenseExpr.Log
