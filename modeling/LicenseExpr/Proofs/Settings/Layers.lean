import LicenseExpr.CommandLine.Run
import LicenseExpr.Proofs.CommandLine.DepthArgument
import LicenseExpr.Proofs.Settings.Sections

/-!
# Which layer decides an option

Both options are settled in the same way, and apart from each other: by the
flag, by the variable, by the settings file, or by the default, whichever comes
first.  A depth must be within its range wherever it stands, so that the depth of
a run is.  What is bad is complained about, source by source, unless a flag holds
an integer that is too long to be shown.
-/

namespace LicenseExpr

/-- The place that a complaint is about. -/
def Complaint.place : Complaint → String
  | .unreadable path _ => path.text
  | .notToml path => path.text
  | .unknownKey place _ => place
  | .parserNotTable place => place
  | .depthNotInteger place _ => place
  | .depthOutOfRange place _ => place
  | .caseNotBoolean place _ => place

namespace Setting

def integer? : Setting → Option Int
  | .integer value => some value
  | _ => none

def boolean? : Setting → Option Bool
  | .boolean value => some value
  | _ => none

end Setting

namespace Settings

variable {environment : Environment} {flags : Flags}

/-- What the first layer that decides anything says, and the default if none does. -/
def firstDecided {Value : Type} (layers : List (Option Value)) (default : Value) : Value :=
  (layers.findSome? id).getD default

/-- The default may itself be what a last layer decides. -/
theorem firstDecided_getD {Value : Type} (layers : List (Option Value)) (last : Option Value)
    (default : Value) :
    firstDecided layers (last.getD default) = firstDecided (layers ++ [last]) default := by
  rw [firstDecided, firstDecided, List.findSome?_append]
  cases layers.findSome? id <;> cases last <;> rfl

theorem forall_firstDecided {Value : Type} {property : Value → Prop} {default : Value}
    (ofDefault : property default) {layers : List (Option Value)}
    (ofLayers : ∀ layer ∈ layers, ∀ value, layer = some value → property value) :
    property (firstDecided layers default) := by
  rw [firstDecided]
  cases found : layers.findSome? id with
  | none => exact ofDefault
  | some value =>
      obtain ⟨layer, member, decides⟩ := List.exists_of_findSome?_eq_some found
      exact ofLayers layer member value decides

/-! ## Depths -/

def IsDepth (depth : Int) : Prop :=
  1 ≤ depth ∧ depth ≤ 100

instance (depth : Int) : Decidable (IsDepth depth) :=
  inferInstanceAs (Decidable (1 ≤ depth ∧ depth ≤ 100))

/-- A depth within the range is shown in three digits at most. -/
theorem hasWritableLength_of_range {depth : Int} (range : 1 ≤ depth ∧ depth ≤ depthCap) :
    Text.hasWritableLength depth = true := by
  have small : depth.natAbs < 10 ^ 3 := by
    have cap : depth ≤ 100 := range.2
    omega
  have short : (Text.decimalDigits depth.natAbs).length ≤ 3 :=
    (Text.length_decimalDigits_le_iff (by decide)).mpr small
  exact Text.hasWritableLength_iff.mpr (short.trans (by decide))

/-- What is not bad for want of a depth has one. -/
theorem isDepth_of_not_bad {decided? : Option Int}
    (notBad : ¬∀ depth ∈ decided?, ¬IsDepth depth) {depth : Int}
    (decided : decided? = some depth) : IsDepth depth := by
  by_contra notDepth
  apply notBad
  intro other same
  rw [decided, Option.mem_some_iff] at same
  rwa [← same]

theorem checkRange_eq (place : String) (depth : Int) :
    Complaint.checkRange place depth =
      if IsDepth depth then .ok depth else .error (.depthOutOfRange place depth) :=
  rfl

theorem checkDepth_eq_ok_iff {place : String} {value : Setting} {depth : Int} :
    Complaint.checkDepth place value = .ok depth ↔
      value.integer? = some depth ∧ IsDepth depth := by
  cases value with
  | integer number =>
      rw [Complaint.checkDepth, checkRange_eq, Setting.integer?, Option.some.injEq]
      constructor
      · intro accepted
        split at accepted
        case isTrue isDepth =>
          cases accepted
          exact ⟨rfl, isDepth⟩
        case isFalse => cases accepted
      · rintro ⟨rfl, isDepth⟩
        rw [if_pos isDepth]
  | null | boolean | real | text | moment | list | table =>
      simp [Complaint.checkDepth, Setting.integer?]

theorem exists_complaint_of_not_depth {value : Setting}
    (bad : ∀ depth ∈ value.integer?, ¬IsDepth depth) (place : String) :
    ∃ complaint, Complaint.checkDepth place value = .error complaint ∧
      complaint.place = place ∧ complaint.isWritable = value.isWritable := by
  cases value with
  | integer number =>
      refine ⟨.depthOutOfRange place number, ?_, rfl, ?_⟩
      · rw [Complaint.checkDepth, checkRange_eq, if_neg (bad number rfl)]
      · rw [Complaint.isWritable, Setting.isWritable]
  | null | boolean | real | text | moment | list | table => exact ⟨_, rfl, rfl, rfl⟩

/-! ## The environment and the flags -/

/-- The depth that the environment decides; a blank value decides none. -/
def variableDepth? (environment : Environment) : Option Int :=
  Text.readInteger (trimmedValue environment depthVariable)

/-- The environment has a value for the depth that is not blank, and no depth either. -/
def HasBadVariable (environment : Environment) : Prop :=
  trimmedValue environment depthVariable ≠ "" ∧
    ∀ depth ∈ variableDepth? environment, ¬IsDepth depth

instance (environment : Environment) : Decidable (HasBadVariable environment) :=
  inferInstanceAs (Decidable (_ ∧ _))

/-- The integer that the flags give. -/
def flagDepth? (flags : Flags) : Option Int :=
  flags.maxDepth.bind Setting.integer?

/-- The flags give a value that is no depth. -/
def HasBadFlag (flags : Flags) : Prop :=
  ∃ value ∈ flags.maxDepth, ∀ depth ∈ value.integer?, ¬IsDepth depth

instance (flags : Flags) : Decidable (HasBadFlag flags) :=
  inferInstanceAs (Decidable (∃ value ∈ flags.maxDepth, _))

/-- What the flags give as the depth can be shown in a complaint. -/
def ShowsDepth (flags : Flags) : Prop :=
  ∀ value ∈ flags.maxDepth, value.isWritable = true

instance (flags : Flags) : Decidable (ShowsDepth flags) :=
  inferInstanceAs (Decidable (∀ value ∈ flags.maxDepth, _))

theorem not_blank_of_variableDepth? {depth : Int}
    (decided : variableDepth? environment = some depth) :
    trimmedValue environment depthVariable ≠ "" := by
  intro blank
  rw [variableDepth?, blank] at decided
  cases decided

theorem isDepth_of_variableDepth? (good : ¬HasBadVariable environment) {depth : Int}
    (decided : variableDepth? environment = some depth) : IsDepth depth := by
  apply isDepth_of_not_bad _ decided
  intro bad
  exact good ⟨not_blank_of_variableDepth? decided, bad⟩

theorem isDepth_of_flagDepth? (good : ¬HasBadFlag flags) {depth : Int}
    (decided : flagDepth? flags = some depth) : IsDepth depth := by
  obtain ⟨value, given, isInteger⟩ := Option.bind_eq_some_iff.mp decided
  apply isDepth_of_not_bad _ isInteger
  intro bad
  exact good ⟨value, given, bad⟩

theorem environmentDepth_of_good (good : ¬HasBadVariable environment) :
    environmentDepth environment = .ok (variableDepth? environment) := by
  rw [environmentDepth]
  by_cases blank : trimmedValue environment depthVariable = ""
  · rw [if_pos blank, variableDepth?, blank]
    rfl
  · rw [if_neg blank]
    cases read : Text.readInteger (trimmedValue environment depthVariable) with
    | none => exact absurd ⟨blank, by simp [variableDepth?, read]⟩ good
    | some depth =>
        have isDepth : IsDepth depth := isDepth_of_variableDepth? good read
        simp only [variableDepth?, read, checkRange_eq, if_pos isDepth, Except.map]

theorem exists_complaint_of_hasBadVariable (bad : HasBadVariable environment) :
    ∃ complaint, environmentDepth environment = .error complaint ∧
      complaint.place = depthVariable ∧ complaint.isWritable = true := by
  obtain ⟨notBlank, notDepth⟩ := bad
  rw [environmentDepth, if_neg notBlank]
  cases read : Text.readInteger (trimmedValue environment depthVariable) with
  | none => exact ⟨_, rfl, rfl, rfl⟩
  | some depth =>
      refine ⟨.depthOutOfRange depthVariable depth, ?_, rfl,
        Text.hasWritableLength_of_readInteger read⟩
      simp only [checkRange_eq, if_neg (notDepth depth read), Except.map]

theorem flagDepth_of_good (good : ¬HasBadFlag flags) :
    flagDepth flags = .ok (flagDepth? flags) := by
  rw [flagDepth, flagDepth?]
  cases given : flags.maxDepth with
  | none => rfl
  | some value =>
      cases isInteger : value.integer? with
      | none => exact absurd ⟨value, given, by simp [isInteger]⟩ good
      | some depth =>
          have isDepth : IsDepth depth := by
            apply isDepth_of_flagDepth? good
            simp [flagDepth?, given, isInteger]
          have accepted : Complaint.checkDepth depthFlag value = .ok depth :=
            checkDepth_eq_ok_iff.mpr ⟨isInteger, isDepth⟩
          simp only [accepted, Except.map, Option.bind_some, isInteger]

theorem showsDepth_of_good (good : ¬HasBadFlag flags) : ShowsDepth flags := by
  intro value given
  cases isInteger : value.integer? with
  | none => exact absurd ⟨value, given, by simp [isInteger]⟩ good
  | some depth =>
      have isDepth : IsDepth depth := by
        apply isDepth_of_flagDepth? good
        rw [flagDepth?, given, Option.bind_some, isInteger]
      cases value with
      | integer number =>
          cases isInteger
          exact hasWritableLength_of_range isDepth
      | null | boolean | real | text | moment | list | table => cases isInteger

theorem exists_complaint_of_hasBadFlag (bad : HasBadFlag flags) :
    ∃ complaint, flagDepth flags = .error complaint ∧ complaint.place = depthFlag ∧
      (complaint.isWritable = true ↔ ShowsDepth flags) := by
  obtain ⟨value, given, notDepth⟩ := bad
  obtain ⟨complaint, refused, place, writable⟩ := exists_complaint_of_not_depth notDepth depthFlag
  rw [Option.mem_def] at given
  refine ⟨complaint, ?_, place, ?_⟩
  · simp only [flagDepth, given, refused, Except.map]
  · simp [ShowsDepth, given, writable]

/-! ## Resolution -/

/-- With nothing bad in the environment and the flags, these and the file decide in turn. -/
theorem resolve_of_good (goodVariable : ¬HasBadVariable environment)
    (goodFlag : ¬HasBadFlag flags) (file : Options) :
    resolve file flags environment = .ok {
      maxDepth := firstDecided [flagDepth? flags, variableDepth? environment] file.maxDepth
      anyCase := firstDecided [flags.anyCase, environmentCase environment] file.anyCase } := by
  rw [resolve, environmentDepth_of_good goodVariable, flagDepth_of_good goodFlag]
  cases flagDepth? flags <;> cases variableDepth? environment <;> cases flags.anyCase <;>
    cases environmentCase environment <;> rfl

/-- Each bad source is complained about once, the environment first. -/
theorem exists_complaints_of_bad (bad : HasBadVariable environment ∨ HasBadFlag flags)
    (file : Options) :
    ∃ complaints, resolve file flags environment = .error (.ofComplaints complaints) ∧
      complaints.map Complaint.place =
        (if HasBadVariable environment then [depthVariable] else []) ++
          (if HasBadFlag flags then [depthFlag] else []) ∧
      (complaints.all Complaint.isWritable = true ↔ ShowsDepth flags) := by
  unfold resolve
  -- A result of two complaints, of one from either source, but never of none.
  by_cases badVariable : HasBadVariable environment
  · obtain ⟨complaint, refused, place, writable⟩ := exists_complaint_of_hasBadVariable badVariable
    by_cases badFlag : HasBadFlag flags
    · obtain ⟨other, otherRefused, otherPlace, shows⟩ := exists_complaint_of_hasBadFlag badFlag
      refine ⟨[complaint, other], by simp [refused, otherRefused, complaintsOf], ?_, ?_⟩
      · simp [badVariable, badFlag, place, otherPlace]
      · simp [writable, shows]
    · refine ⟨[complaint], by simp [refused, flagDepth_of_good badFlag, complaintsOf], ?_, ?_⟩
      · simp [badVariable, badFlag, place]
      · simp [writable, showsDepth_of_good badFlag]
  · have badFlag : HasBadFlag flags := bad.resolve_left badVariable
    obtain ⟨other, otherRefused, otherPlace, shows⟩ := exists_complaint_of_hasBadFlag badFlag
    refine ⟨[other], ?_, by simp [badVariable, badFlag, otherPlace], by simp [shows]⟩
    simp [otherRefused, environmentDepth_of_good badVariable, complaintsOf]

theorem exists_resolve_eq_error_iff {file : Options} :
    (∃ error, resolve file flags environment = .error error) ↔
      HasBadVariable environment ∨ HasBadFlag flags := by
  constructor
  · rintro ⟨error, refused⟩
    by_contra good
    obtain ⟨goodVariable, goodFlag⟩ := not_or.mp good
    rw [resolve_of_good goodVariable goodFlag] at refused
    cases refused
  · intro bad
    obtain ⟨complaints, refused, -⟩ := exists_complaints_of_bad bad file
    exact ⟨_, refused⟩

/-- The complaints are reported, if the flags let them be shown. -/
theorem exists_complaints_of_resolve {file : Options} {error : LoadError}
    (shows : ShowsDepth flags) (refused : resolve file flags environment = .error error) :
    ∃ complaints, error = .refused complaints ∧
      complaints.map Complaint.place =
        (if HasBadVariable environment then [depthVariable] else []) ++
          (if HasBadFlag flags then [depthFlag] else []) := by
  have bad := exists_resolve_eq_error_iff.mp ⟨error, refused⟩
  obtain ⟨complaints, refusedSame, places, writable⟩ := exists_complaints_of_bad bad file
  obtain rfl := Except.error.inj (refused.symm.trans refusedSame)
  exact ⟨complaints, if_pos (writable.mpr shows), places⟩

/-- What cannot be shown is no depth either, and nothing at all is complained about. -/
theorem resolve_of_not_showsDepth (hidden : ¬ShowsDepth flags) (file : Options) :
    resolve file flags environment = .error .integerTooLong := by
  have bad : HasBadFlag flags := by
    by_contra good
    exact hidden (showsDepth_of_good good)
  obtain ⟨complaints, refused, -, writable⟩ := exists_complaints_of_bad (.inr bad) file
  rw [refused, LoadError.ofComplaints, if_neg (mt writable.mp hidden)]

/-! ## One integer in every layer -/

theorem environmentDepth_of_integerText {number : Int}
    (found : environment.lookup depthVariable = some (Text.integerText number))
    (writable : Text.hasWritableLength number = true) :
    environmentDepth environment =
      if IsDepth number then .ok (some number)
      else .error (.depthOutOfRange depthVariable number) := by
  have trimmed : trimmedValue environment depthVariable = Text.integerText number := by
    rw [trimmedValue, Environment.valueOr, found, Option.getD_some, Text.trimmed,
      Text.integerText, String.toList_ofList,
      Text.trim_eq_self Text.not_isBlank_of_mem_signedDecimal]
  have read : variableDepth? environment = some number := by
    rw [variableDepth?, trimmed, Text.readInteger_integerText, if_pos writable]
  rw [environmentDepth, if_neg (not_blank_of_variableDepth? read)]
  rw [variableDepth?] at read
  simp only [read, checkRange_eq]
  split <;> rfl

theorem resolve_of_integerText {number : Int}
    (found : environment.lookup depthVariable = some (Text.integerText number))
    (writable : Text.hasWritableLength number = true) (file : Options) :
    resolve file {} environment =
      if IsDepth number then .ok ⟨number, (environmentCase environment).getD file.anyCase⟩
      else .error (.refused [.depthOutOfRange depthVariable number]) := by
  rw [resolve, environmentDepth_of_integerText found writable]
  by_cases isDepth : IsDepth number
  · simp only [if_pos isDepth, flagDepth]
    rfl
  · simp [if_neg isDepth, flagDepth, complaintsOf, LoadError.ofComplaints, Complaint.isWritable,
      writable]

theorem environmentDepth_of_unset (unset : environment.lookup depthVariable = none) :
    environmentDepth environment = .ok none := by
  have blank : trimmedValue environment depthVariable = "" := by
    rw [trimmedValue, Environment.valueOr, unset]
    rfl
  rw [environmentDepth, if_pos blank]

theorem resolve_of_integer {number : Int} (unset : environment.lookup depthVariable = none)
    (writable : Text.hasWritableLength number = true) (file : Options) :
    resolve file ⟨some (.integer number), none⟩ environment =
      if IsDepth number then .ok ⟨number, (environmentCase environment).getD file.anyCase⟩
      else .error (.refused [.depthOutOfRange depthFlag number]) := by
  rw [resolve, environmentDepth_of_unset unset, flagDepth]
  simp only [Complaint.checkDepth, checkRange_eq]
  by_cases isDepth : IsDepth number
  · simp only [if_pos isDepth, Except.map]
    rfl
  · simp [if_neg isDepth, Except.map, complaintsOf, LoadError.ofComplaints, Complaint.isWritable,
      writable]

theorem ofParserTable_of_integer {place : String} {entries : List (String × Setting)}
    {number : Int} {anyCase : Bool} (found : entries.lookup "max_depth" = some (.integer number))
    (known : strangersOf place entries = []) (settled : anyCaseOf place entries = .ok anyCase)
    (writable : Text.hasWritableLength number = true) :
    ofParserTable place entries =
      if IsDepth number then .ok ⟨number, anyCase⟩
      else .error (.refused [.depthOutOfRange place number]) := by
  have depth : depthOf place entries =
      if IsDepth number then .ok number else .error (.depthOutOfRange place number) := by
    rw [depthOf, found]
    rfl
  rw [ofParserTable, known, settled, depth]
  by_cases isDepth : IsDepth number
  · simp only [if_pos isDepth]
  · simp [if_neg isDepth, complaintsOf, LoadError.ofComplaints, Complaint.isWritable, writable]

/-! ## The settings file -/

def integerUnder? (key : String) (entries : List (String × Setting)) : Option Int :=
  (entries.lookup key).bind Setting.integer?

def booleanUnder? (key : String) (entries : List (String × Setting)) : Option Bool :=
  (entries.lookup key).bind Setting.boolean?

theorem depthOf_eq_ok {place : String} {entries : List (String × Setting)} {depth : Int}
    (settled : depthOf place entries = .ok depth) :
    depth = (integerUnder? "max_depth" entries).getD 64 ∧ IsDepth depth := by
  rw [depthOf] at settled
  cases found : entries.lookup "max_depth" with
  | none =>
      rw [found] at settled
      cases settled
      exact ⟨by simp [integerUnder?, found], by decide⟩
  | some value =>
      simp only [found] at settled
      obtain ⟨isInteger, isDepth⟩ := checkDepth_eq_ok_iff.mp settled
      exact ⟨by simp [integerUnder?, found, isInteger], isDepth⟩

theorem anyCaseOf_eq_ok {place : String} {entries : List (String × Setting)} {anyCase : Bool}
    (settled : anyCaseOf place entries = .ok anyCase) :
    anyCase = (booleanUnder? "case_insensitive_operators" entries).getD false := by
  rw [anyCaseOf] at settled
  rw [booleanUnder?]
  cases found : entries.lookup "case_insensitive_operators" with
  | none =>
      rw [found] at settled
      cases settled
      rfl
  | some value =>
      rw [found] at settled
      cases value with
      | boolean given =>
          cases settled
          rfl
      | null | integer | real | text | moment | list | table => cases settled

end Settings

namespace CommandLine

open Settings

variable {world : World} {choices : GlobalChoices}

/-- The table with the options of the parser in a settings file; it is empty if there is no
file. -/
def HasParserTable (world : World) (entries : List (String × Setting)) : Option Path → Prop
  | none => entries = []
  | some path =>
      ∃ document, HoldsDocument world.files world.workingDirectory path document ∧
        parserTable? path document = some entries

theorem exists_parserTable_of_fileOptions {path? : Option Path} {file : Options}
    (settled : fileOptions world path? = .ok file) :
    ∃ entries, HasParserTable world entries path? ∧ IsDepth file.maxDepth ∧
      file.maxDepth = (integerUnder? "max_depth" entries).getD 64 ∧
      file.anyCase = (booleanUnder? "case_insensitive_operators" entries).getD false := by
  cases path? with
  | none =>
      cases settled
      exact ⟨[], rfl, by decide, rfl, rfl⟩
  | some path =>
      obtain ⟨document, holds, accepted⟩ := load_eq_ok_iff.mp settled
      cases found : sectionOf? path document with
      | none =>
          rw [ofDocument_of_sectionOf?_eq_none found] at accepted
          cases accepted
      | some value =>
          rw [ofDocument_of_sectionOf? found] at accepted
          obtain ⟨entries, parser, rfl, -, isTable, options⟩ := ofSection_eq_ok_iff.mp accepted
          obtain ⟨-, depth, anyCase⟩ := ofParserTable_eq_ok_iff.mp options
          obtain ⟨depthEq, isDepth⟩ := depthOf_eq_ok depth
          refine ⟨parser, ⟨document, holds, ?_⟩, isDepth, depthEq, anyCaseOf_eq_ok anyCase⟩
          simp [parserTable?, found, isTable]

theorem flagDepth?_flags (choices : GlobalChoices) :
    flagDepth? choices.flags = choices.maxDepth.join := by
  rw [flagDepth?, GlobalChoices.flags]
  obtain none | none | depth := choices.maxDepth <;> rfl

theorem showsDepth_flags_iff : ShowsDepth choices.flags ↔ choices.HasWritableDepth := by
  rw [ShowsDepth, GlobalChoices.flags, GlobalChoices.HasWritableDepth]
  obtain none | none | depth := choices.maxDepth <;>
    simp [depthSetting, Setting.isWritable, Setting.itemsAreWritable]

/-- A complaint about the depth on a command line can be shown. -/
theorem showsDepth_of_read {arguments : List String} {invocation : Invocation}
    (reads : Invocation.read arguments = .ok invocation) : ShowsDepth invocation.choices.flags :=
  showsDepth_flags_iff.mpr (hasWritableDepth_of_read reads)

/-- The options of a run are those of the first layer that decides. -/
theorem exists_layers_of_options {options : Options}
    (resolved : CommandLine.options world choices = .ok options) :
    ∃ entries, HasParserTable world entries (settingsFile? world choices) ∧
      IsDepth options.maxDepth ∧
      options.maxDepth = firstDecided [choices.maxDepth.join, variableDepth? world.environment,
        integerUnder? "max_depth" entries] 64 ∧
      options.anyCase = firstDecided [if choices.anyCase then some true else none,
        environmentCase world.environment,
        booleanUnder? "case_insensitive_operators" entries] false := by
  rw [CommandLine.options] at resolved
  cases chosen : chooseFile world choices with
  | error error => simp [chosen] at resolved
  | ok path? =>
    cases settled : fileOptions world path? with
    | error error => simp [chosen, settled] at resolved
    | ok file =>
      simp only [chosen, settled] at resolved
      rw [settingsFile?_of_chooseFile chosen]
      -- Anything bad would have been complained about, whichever layer decides.
      have good : ¬(HasBadVariable world.environment ∨ HasBadFlag choices.flags) := by
        intro bad
        obtain ⟨complaints, refused, -⟩ := exists_complaints_of_bad bad file
        simp [refused] at resolved
      obtain ⟨goodVariable, goodFlag⟩ := not_or.mp good
      rw [resolve_of_good goodVariable goodFlag] at resolved
      obtain rfl := Except.ok.inj resolved
      obtain ⟨entries, table, isDepth, depthEq, anyCaseEq⟩ :=
        exists_parserTable_of_fileOptions settled
      refine ⟨entries, table, ?_, ?_, ?_⟩
      · apply forall_firstDecided isDepth
        rintro layer member depth rfl
        rcases List.mem_cons.mp member with same | member
        · exact isDepth_of_flagDepth? goodFlag same.symm
        · exact isDepth_of_variableDepth? goodVariable (List.mem_singleton.mp member).symm
      · simp only [flagDepth?_flags, depthEq, firstDecided_getD, List.cons_append, List.nil_append]
      · simp only [GlobalChoices.flags, anyCaseEq, firstDecided_getD, List.cons_append,
          List.nil_append]

/-- Where there are no files, the flags, the environment and the defaults decide. -/
theorem options_of_empty {environment : Environment} (unnamed : choices.config = none) :
    CommandLine.options ⟨.empty, [], environment⟩ choices =
      resolve {} choices.flags environment := by
  have chosen : chooseFile ⟨.empty, [], environment⟩ choices = .ok none := by
    rw [chooseFile, unnamed]
    rfl
  simp only [CommandLine.options, chosen, fileOptions]

theorem options_of_empty_of_good {environment : Environment} {settled : Options}
    (unnamed : choices.config = none) (goodVariable : ¬HasBadVariable environment)
    (goodFlag : ¬HasBadFlag choices.flags)
    (decided : settled =
      ⟨firstDecided [flagDepth? choices.flags, variableDepth? environment] 64,
        firstDecided [choices.flags.anyCase, environmentCase environment] false⟩) :
    CommandLine.options ⟨.empty, [], environment⟩ choices = .ok settled := by
  rw [options_of_empty unnamed, resolve_of_good goodVariable goodFlag, decided]

/-- The options of a run come from the file that is named, or else from the nearest one. -/
theorem settingsFile?_of_options {options : Options}
    (resolved : CommandLine.options world choices = .ok options) :
    settingsFile? world choices = (choices.config.map Path.ofText <|>
      discover? world.files world.workingDirectory (Path.ofText "")) := by
  cases chosen : chooseFile world choices with
  | error error => simp [CommandLine.options, chosen] at resolved
  | ok path? =>
      rw [settingsFile?_of_chooseFile chosen]
      rw [chooseFile] at chosen
      cases named : choices.config with
      | none => simpa [named] using eq_discover?_of_locate (by simpa [named] using chosen)
      | some text => simpa [named, eq_comm] using chosen

end CommandLine

end LicenseExpr
