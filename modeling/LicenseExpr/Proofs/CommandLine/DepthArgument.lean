import Mathlib.Data.List.TakeWhile
import LicenseExpr.CommandLine.Invocation
import LicenseExpr.Proofs.Text.Digits

/-!
# The depth on the command line

The option `--max-depth` takes any integer, a negative one too: its text has a
dash in front but is no option.  A command behind it is read as it would be
without the option.  Whatever depth is given, it has no more digits than may be
written.
-/

namespace LicenseExpr.CommandLine

/-! ## Integers as arguments -/

theorem isSome_digitValue?_of_mem_decimal {number : Nat} {char : Char}
    (member : char ∈ Text.decimal number) : (Text.digitValue? char).isSome = true := by
  rw [Text.decimal_eq_map] at member
  obtain ⟨digit, digitMember, rfl⟩ := List.mem_map.mp member
  rw [Text.digitValue?_digitChar (Text.lt_ten_of_mem_decimalDigits digitMember)]
  rfl

theorem isDigits_decimal (number : Nat) : isDigits (Text.decimal number) = true := by
  obtain ⟨char, rest, decimalEq, -, -⟩ := Text.exists_decimal_eq_cons number
  have allDigits : ∀ char ∈ Text.decimal number, (Text.digitValue? char).isSome = true :=
    fun _ => isSome_digitValue?_of_mem_decimal
  have someDigit : (Text.decimal number).any (fun char => (Text.digitValue? char).isSome) = true :=
    List.any_eq_true.mpr ⟨char, by simp [decimalEq], allDigits char (by simp [decimalEq])⟩
  have noRest : (Text.decimal number).dropWhile (fun char => (Text.digitValue? char).isSome) = [] :=
    List.dropWhile_eq_nil_iff.mpr allDigits
  simp only [isDigits, someDigit, noRest]
  rfl

theorem cutAtMark_of_no_mark {text : List Char} (noMark : '=' ∉ text) :
    cutAtMark text = (text, none) := by
  have whole : text.dropWhile (· != '=') = [] := by
    rw [List.dropWhile_eq_nil_iff]
    intro char member
    rw [bne_iff_ne]
    rintro rfl
    exact noMark member
  rw [cutAtMark, whole]

/-- Behind the dash, the name of no option begins with a digit. -/
theorem second_not_digit_of_mem_namedOptions :
    ∀ named ∈ program.namedOptions, (named.name.drop 1).head?.bind Text.digitValue? = none := by
  decide

theorem name_ne_of_digit {char : Char} (isDigit : (Text.digitValue? char).isSome = true)
    (more : List Char) : ∀ named ∈ program.namedOptions, named.name ≠ '-' :: char :: more := by
  intro named member same
  have noDigit := second_not_digit_of_mem_namedOptions named member
  rw [same, List.drop_succ_cons, List.drop_zero, List.head?_cons, Option.bind_some] at noDigit
  rw [noDigit] at isDigit
  cases isDigit

theorem inexactReadings_of_digit {char : Char}
    (isDigit : (Text.digitValue? char).isSome = true) (rest : List Char) :
    inexactReadings program ('-' :: char :: rest) = [] := by
  have short : isShortName ('-' :: char :: rest) = true := by
    unfold isShortName
    split
    case h_1 same =>
      have dash : char = '-' := (List.cons.inj (List.cons.inj same).2).1
      rw [dash] at isDigit
      revert isDigit
      decide
    case h_2 => rfl
  rw [inexactReadings, if_pos short, List.map_eq_nil_iff, List.filter_eq_nil_iff]
  intro named member
  rw [decide_eq_true_iff]
  exact name_ne_of_digit isDigit [] named member

/-- The text of an integer is never taken for an option. -/
theorem readArgument_integerText (number : Int) :
    readArgument program (Text.integerText number) = .ok .operand := by
  cases number with
  | ofNat number =>
      obtain ⟨char, rest, decimalEq, -, notDash⟩ := Text.exists_decimal_eq_cons number
      rw [readArgument, if_pos]
      simp [Text.integerText, Text.signedDecimal, decimalEq, notDash]
  | negSucc number =>
      obtain ⟨char, rest, decimalEq, -, -⟩ := Text.exists_decimal_eq_cons (number + 1)
      have digits : isDigits (char :: rest) = true := decimalEq ▸ isDigits_decimal (number + 1)
      have isDigit : (Text.digitValue? char).isSome = true :=
        isSome_digitValue?_of_mem_decimal (decimalEq ▸ List.mem_cons_self)
      have textEq : (Text.integerText (Int.negSucc number)).toList = '-' :: char :: rest := by
        simp [Text.integerText, Text.signedDecimal, decimalEq]
      have noMark : '=' ∉ '-' :: char :: rest := by
        rw [← decimalEq]
        intro member
        rcases List.mem_cons.mp member with mark | member
        · cases mark
        · exact absurd (isSome_digitValue?_of_mem_decimal member) (by decide)
      have unknown : program.option? ('-' :: char :: rest) = none := by
        rw [Command.option?, List.find?_eq_none]
        intro named member
        simpa using name_ne_of_digit isDigit rest named member
      have looks : looksNegative ('-' :: char :: rest) = true := by
        simp [looksNegative, digits]
      have notDash : Text.integerText (Int.negSucc number) ≠ "-" := by
        intro alone
        rw [alone] at textEq
        simp at textEq
      rw [readArgument, if_neg (by simp [textEq, notDash])]
      simp only [textEq, unknown, cutAtMark_of_no_mark noMark, readInexact,
        inexactReadings_of_digit isDigit rest, looks, Bool.true_or, if_true]

/-! ## The option in front of a command -/

theorem readArguments_cons {command : Command} {argument : String} {reading : Reading}
    (proper : argument ≠ "--") (read : readArgument command argument = .ok reading)
    (rest : List String) :
    readArguments command (argument :: rest) =
      (readArguments command rest).map (⟨argument, reading⟩ :: ·) := by
  rw [readArguments, if_neg proper, read]
  cases readArguments command rest <;> rfl

theorem integerText_ne_dashes (number : Int) : Text.integerText number ≠ "--" := by
  intro dashes
  have ambiguous : (readArgument program "--").isOk = false := by decide +kernel
  rw [← dashes, readArgument_integerText] at ambiguous
  cases ambiguous

variable {State : Type}

/-- The option and its value are acted upon first, and the rest as without them. -/
theorem scanArguments_maxDepth {actions : Actions State} {state next : State} {number : Int}
    (set : actions.set state ⟨.maxDepth, some (Text.integerText number)⟩ = .ok next)
    (arguments : List String) :
    scanArguments program actions state ("--max-depth" :: Text.integerText number :: arguments) =
      scanArguments program actions next arguments := by
  have option : readArgument program "--max-depth" = .ok (.ofOption .maxDepth false none) := by
    decide +kernel
  unfold scanArguments
  -- All words are read before the first is acted upon, so a fault behind the option comes first.
  rw [readArguments_cons (by decide) option,
    readArguments_cons (integerText_ne_dashes number) (readArgument_integerText number)]
  cases readArguments program arguments with
  | error fault => rfl
  | ok words =>
      simp only [Except.map]
      rw [scanWords]
      simp [Cluster.ofReading, Cluster.bare, CommandOption.takesValue, set]
      rfl

theorem scanArguments_operand {actions : Actions State} {state : State} {command : String}
    (proper : command ≠ "--") (operand : readArgument program command = .ok .operand)
    (arguments : List String) :
    scanArguments program actions state (command :: arguments) =
      match readArguments program arguments with
      | .error fault => .error (.usage program fault)
      | .ok words => (actions.fill state (command :: words.map Word.text)).map (·, []) := by
  unfold scanArguments
  rw [readArguments_cons proper operand]
  cases readArguments program arguments with
  | error fault => rfl
  | ok words =>
      simp only [Except.map]
      have count : program.arity.count? ⟨command, .operand⟩ words = some words.length := by
        simp [Arity.count?, program, Word.isSeparator]
      have values (taken : List Word) : program.arity.values taken = taken.map Word.text := by
        simp [Arity.values, program]
      rw [scanWords]
      · simp only [Bool.false_eq_true, if_false, count, List.take_length, List.drop_length, values]
        cases filled : actions.fill state (command :: words.map Word.text) with
        | error stop => simp [filled, bind, Except.bind]
        | ok next => simp [filled, bind, Except.bind, scanWords]
      · intro option isShort attached same
        cases same
      · intro same
        cases same

/-- The option in front of a command chooses the depth, and changes nothing else. -/
theorem read_maxDepth_cons {number : Int} (writable : Text.hasWritableLength number = true)
    {command : String} (known : command ∈ ["parse", "ids"]) (arguments : List String) :
    Invocation.read ("--max-depth" :: Text.integerText number :: command :: arguments) =
      (Invocation.read (command :: arguments)).map fun invocation =>
        { invocation with
          choices := { invocation.choices with maxDepth := some (some number) } } := by
  have proper : command ≠ "--" := by
    rintro rfl
    revert known
    decide
  have operand : readArgument program command = .ok .operand := by
    simp only [List.mem_cons, List.not_mem_nil, or_false] at known
    rcases known with rfl | rfl <;> decide +kernel
  have set : setGlobal {} ⟨.maxDepth, some (Text.integerText number)⟩ =
      .ok { maxDepth := some (some number) } := by
    simp [setGlobal, Text.readInteger_integerText, writable]
  unfold Invocation.read
  simp only
  rw [scanArguments_maxDepth (by simp only [programActions, set]; rfl)]
  rw [scanArguments_operand proper operand, scanArguments_operand proper operand]
  cases readArguments program arguments with
  | error fault => rfl
  | ok words =>
      simp only [programActions]
      cases readTask (command :: words.map Word.text) with
      | error stop => rfl
      | ok taken =>
          obtain ⟨task, more⟩ := taken
          simp only [Except.map, bind, Except.bind, pure, Except.pure, List.nil_append]
          split <;> rfl

/-! ## Depths that are given -/

theorem exists_of_bind_eq_ok {Error First Second : Type} {first : Except Error First}
    {goesOn : First → Except Error Second} {result : Second}
    (succeeds : (first >>= goesOn) = .ok result) :
    ∃ middle, first = .ok middle ∧ goesOn middle = .ok result := by
  cases first with
  | error failure => cases succeeds
  | ok middle => exact ⟨middle, rfl, succeeds⟩

/-- A property of the state that no action destroys. -/
structure Actions.Keep (actions : Actions State) (property : State → Prop) : Prop where
  set : ∀ {state occurrence next}, property state →
    actions.set state occurrence = .ok next → property next
  fill : ∀ {state operands next}, property state →
    actions.fill state operands = .ok next → property next

namespace Actions.Keep

variable {command : Command} {actions : Actions State} {property : State → Prop}
  {state next : State}

theorem of_foldlM (keep : actions.Keep property) {occurrences : List Occurrence}
    (initially : property state) (acts : occurrences.foldlM actions.set state = .ok next) :
    property next := by
  induction occurrences generalizing state with
  | nil =>
      cases acts
      exact initially
  | cons occurrence occurrences ih =>
      rw [List.foldlM_cons] at acts
      obtain ⟨middle, first, later⟩ := exists_of_bind_eq_ok acts
      exact ih (keep.set initially first) later

/-- Word by word the state keeps the property. -/
theorem of_scanWords (keep : actions.Keep property) {scan final : Scan State} {words : List Word}
    (initially : property scan.state)
    (scans : scanWords command actions scan words = .ok final) : property final.state := by
  fun_induction scanWords command actions scan words with
  | case1 scan =>
      cases scans
      exact initially
  | case2 | case5 => cases scans
  | case3 _ _ _ _ _ _ _ _ _ ih | case4 _ _ _ _ _ _ _ _ _ _ _ _ ih =>
      obtain ⟨state, acts, scans⟩ := exists_of_bind_eq_ok scans
      exact ih state (keep.of_foldlM initially acts) scans
  | case6 _ _ _ ih | case7 _ _ _ _ _ _ _ ih => exact ih initially scans
  | case8 _ _ _ _ _ _ _ _ _ ih =>
      obtain ⟨state, fills, scans⟩ := exists_of_bind_eq_ok scans
      exact ih state (keep.fill initially fills) scans

theorem of_scanArguments (keep : actions.Keep property) {arguments extras : List String}
    (initially : property state)
    (scans : scanArguments command actions state arguments = .ok (next, extras)) :
    property next := by
  unfold scanArguments at scans
  cases read : readArguments command arguments with
  | error fault => simp [read] at scans
  | ok words =>
      cases scanned : scanWords command actions ⟨state, false, []⟩ words with
      | error stop => simp [read, scanned] at scans
      | ok scan =>
          simp only [read, scanned] at scans
          split at scans
          case isTrue =>
            cases scans
            exact keep.of_scanWords initially scanned
          case isFalse => cases scans

end Actions.Keep

/-- The depth that is chosen, if one is, can be written. -/
def GlobalChoices.HasWritableDepth (choices : GlobalChoices) : Prop :=
  ∀ depth ∈ choices.maxDepth.join, Text.hasWritableLength depth = true

theorem hasWritableDepth_of_setGlobal {choices next : GlobalChoices} {occurrence : Occurrence}
    (initially : choices.HasWritableDepth) (sets : setGlobal choices occurrence = .ok next) :
    next.HasWritableDepth := by
  unfold setGlobal at sets
  split at sets
  case h_1 => cases sets
  case h_3 =>
    split at sets
    case h_1 =>
      cases sets
      simp [GlobalChoices.HasWritableDepth]
    case h_2 text _ =>
      cases read : Text.readInteger text with
      | none => simp [read] at sets
      | some number =>
          simp only [read] at sets
          cases sets
          rintro depth ⟨⟩
          exact Text.hasWritableLength_of_readInteger read
  all_goals
    cases sets
    exact initially

theorem keep_programActions : programActions.Keep fun state => state.1.HasWritableDepth := by
  constructor
  case set =>
    intro state occurrence next initially sets
    obtain ⟨choices, first, same⟩ := exists_of_bind_eq_ok sets
    cases same
    exact hasWritableDepth_of_setGlobal initially first
  case fill =>
    intro state operands next initially fills
    obtain ⟨task, first, same⟩ := exists_of_bind_eq_ok fills
    cases same
    exact initially

/-- An integer of too many digits is no depth on the command line. -/
theorem hasWritableDepth_of_read {arguments : List String} {invocation : Invocation}
    (reads : Invocation.read arguments = .ok invocation) :
    invocation.choices.HasWritableDepth := by
  unfold Invocation.read at reads
  obtain ⟨⟨⟨choices, task⟩, extras⟩, scans, reads⟩ := exists_of_bind_eq_ok reads
  have kept : choices.HasWritableDepth :=
    keep_programActions.of_scanArguments (by simp [GlobalChoices.HasWritableDepth]) scans
  cases task with
  | none => cases reads
  | some task =>
      obtain ⟨task, more⟩ := task
      simp only at reads
      split at reads
      case isTrue =>
        cases reads
        exact kept
      case isFalse => cases reads

end LicenseExpr.CommandLine
