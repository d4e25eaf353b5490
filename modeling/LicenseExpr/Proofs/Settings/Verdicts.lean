import LicenseExpr.Proofs.Settings.Failures
import LicenseExpr.Proofs.Settings.Layers
import LicenseExpr.Proofs.Toml.Hexadecimal

/-!
# Verdicts on settings

The settings in a file are accepted exactly if every entry is one that is known
and has a value that fits.  If they are not, there is one complaint for each entry
at fault: those about the outer table alone if there are any, and otherwise those
about the parser table, first the unknown keys and then the options.  Nothing
else about the file plays a role, not even the order of the keys.
-/

namespace LicenseExpr

namespace Settings

/-! ## Entries of a parser table -/

/-- The key is that of an option, and the value is one that it can have. -/
def Fits (key : String) (value : Setting) : Prop :=
  (key = "max_depth" ∧ ∃ depth ∈ value.integer?, IsDepth depth) ∨
    (key = "case_insensitive_operators" ∧ value.boolean?.isSome)

instance (key : String) (value : Setting) : Decidable (Fits key value) :=
  inferInstanceAs (Decidable ((_ ∧ ∃ depth ∈ value.integer?, _) ∨ (_ ∧ _)))

/-- The complaint about an entry at fault. -/
def complaintAbout (place : String) (entry : String × Setting) : Complaint :=
  if entry.1 = "max_depth" then
    match entry.2 with
    | .integer depth => .depthOutOfRange place depth
    | value => .depthNotInteger place value
  else if entry.1 = "case_insensitive_operators" then .caseNotBoolean place entry.2
  else .unknownKey place (.text entry.1)

/-- The part of a message in which a key is complained about. -/
def stage (key : String) : Nat :=
  if key = "max_depth" then 1 else if key = "case_insensitive_operators" then 2 else 0

/-- Complaints about one key come before those about the other. -/
def Precedes (first second : String) : Prop :=
  stage first < stage second ∨ stage first = stage second ∧ first < second

/-- The entries at fault in a parser table, each once and in the order of complaints. -/
structure AreOffenders (parser offenders : List (String × Setting)) : Prop where
  mem_iff : ∀ key value, (key, value) ∈ offenders ↔
    parser.lookup key = some value ∧ ¬Fits key value
  ordered : offenders.Pairwise fun first second => Precedes first.1 second.1

/-- The entries of a table under some keys, in the order of these. -/
def entriesUnder (names : List String) (entries : List (String × Setting)) :
    List (String × Setting) :=
  names.filterMap fun name => (entries.lookup name).map (Prod.mk name)

def optionNames : List String :=
  ["max_depth", "case_insensitive_operators"]

def offendersOf (parser : List (String × Setting)) : List (String × Setting) :=
  (entriesUnder (unknownNames optionNames (keys parser) ++ optionNames) parser).filter
    fun entry => ¬Fits entry.1 entry.2

theorem precedes_asymm {first second : String} (precedes : Precedes first second) :
    ¬Precedes second first := by
  rcases precedes with earlier | ⟨same, less⟩
  · rintro (later | ⟨same, -⟩) <;> omega
  · rintro (later | ⟨-, greater⟩)
    · omega
    · exact String.lt_asymm less greater

/-- There is at most one way to list some items in a strict order. -/
theorem eq_of_pairwise_of_mem_iff {Item : Type} {before : Item → Item → Prop}
    (asymm : ∀ {first second}, before first second → ¬before second first)
    {items others : List Item} (ordered : items.Pairwise before)
    (othersOrdered : others.Pairwise before) (same : ∀ item, item ∈ items ↔ item ∈ others) :
    items = others := by
  have distinct {list : List Item} (ordered : list.Pairwise before) : list.Nodup := by
    refine ordered.imp ?_
    rintro first second precedes rfl
    exact asymm precedes precedes
  have members : items.Perm others :=
    (List.perm_ext_iff_of_nodup (distinct ordered) (distinct othersOrdered)).mpr same
  refine members.eq_of_pairwise ?_ ordered othersOrdered
  intro first second _ _ precedes follows
  exact absurd follows (asymm precedes)

theorem mem_unknownNames {known names : List String} {name : String} :
    name ∈ unknownNames known names ↔ name ∈ names ∧ name ∉ known := by
  simp [unknownNames]

theorem mem_keys_iff {entries : List (String × Setting)} {key : String} :
    key ∈ keys entries ↔ ∃ value, entries.lookup key = some value := by
  induction entries with
  | nil => simp [keys]
  | cons entry rest ih =>
      rw [keys] at ih
      rw [keys, List.map_cons, List.mem_cons, ih, List.lookup_cons]
      by_cases same : key = entry.1
      · simp [same]
      · simp [same, beq_false_of_ne same]

theorem mem_entriesUnder {names : List String} {entries : List (String × Setting)} {key : String}
    {value : Setting} :
    (key, value) ∈ entriesUnder names entries ↔ key ∈ names ∧ entries.lookup key = some value := by
  simp only [entriesUnder, List.mem_filterMap, Option.map_eq_some_iff, Prod.mk.injEq]
  constructor
  · rintro ⟨name, member, found, lookup, rfl, rfl⟩
    exact ⟨member, lookup⟩
  · rintro ⟨member, lookup⟩
    exact ⟨key, member, value, lookup, rfl, rfl⟩

theorem stage_of_mem_unknownNames {names : List String} {name : String}
    (member : name ∈ unknownNames optionNames names) : stage name = 0 := by
  have unknown := (mem_unknownNames.mp member).2
  simp only [optionNames, List.mem_cons, List.not_mem_nil, or_false, not_or] at unknown
  simp [stage, unknown]

theorem pairwise_precedes (names : List String) :
    (unknownNames optionNames names ++ optionNames).Pairwise Precedes := by
  rw [List.pairwise_append]
  refine ⟨?_, by simp [optionNames, Precedes, stage], ?_⟩
  · refine (Text.pairwise_sortedDistinct _).imp_of_mem ?_
    intro first second firstUnknown secondUnknown less
    exact .inr ⟨(stage_of_mem_unknownNames firstUnknown).trans
      (stage_of_mem_unknownNames secondUnknown).symm, less⟩
  · intro first firstUnknown second secondOption
    left
    rw [stage_of_mem_unknownNames firstUnknown]
    revert second
    decide

theorem areOffenders_offendersOf (parser : List (String × Setting)) :
    AreOffenders parser (offendersOf parser) where
  mem_iff := by
    intro key value
    rw [offendersOf, List.mem_filter, mem_entriesUnder, List.mem_append, mem_unknownNames,
      mem_keys_iff]
    simp only [decide_eq_true_eq]
    constructor
    · rintro ⟨⟨-, found⟩, offends⟩
      exact ⟨found, offends⟩
    · rintro ⟨found, offends⟩
      refine ⟨⟨?_, found⟩, offends⟩
      by_cases isOption : key ∈ optionNames
      · exact .inr isOption
      · exact .inl ⟨⟨value, found⟩, isOption⟩
  ordered := by
    apply List.Pairwise.filter
    refine (pairwise_precedes (keys parser)).filterMap _ ?_
    intro first second precedes firstEntry firstFound secondEntry secondFound
    rw [Option.map_eq_some_iff] at firstFound secondFound
    obtain ⟨_, -, rfl⟩ := firstFound
    obtain ⟨_, -, rfl⟩ := secondFound
    exact precedes

/-! ## Complaints about a parser table -/

/-- The complaints about the entries under some keys. -/
def complaintsUnder (place : String) (names : List String) (parser : List (String × Setting)) :
    List Complaint :=
  ((entriesUnder names parser).filter fun entry => ¬Fits entry.1 entry.2).map
    (complaintAbout place)

theorem complaintsUnder_append (place : String) (first second : List String)
    (parser : List (String × Setting)) :
    complaintsUnder place (first ++ second) parser =
      complaintsUnder place first parser ++ complaintsUnder place second parser := by
  simp [complaintsUnder, entriesUnder, List.filterMap_append]

theorem complaintsUnder_singleton (place name : String) (parser : List (String × Setting)) :
    complaintsUnder place [name] parser =
      match parser.lookup name with
      | none => []
      | some value => if Fits name value then [] else [complaintAbout place (name, value)] := by
  cases found : parser.lookup name with
  | none => simp [complaintsUnder, entriesUnder, found]
  | some value =>
      by_cases fits : Fits name value <;> simp [complaintsUnder, entriesUnder, found, fits]

theorem complaintsUnder_unknown (place : String) {names : List String}
    {parser : List (String × Setting)}
    (unknown : ∀ name ∈ names, name ∈ keys parser ∧ name ∉ optionNames) :
    complaintsUnder place names parser = names.map fun key => .unknownKey place (.text key) := by
  induction names with
  | nil => rfl
  | cons name names ih =>
      obtain ⟨⟨present, notOption⟩, others⟩ := List.forall_mem_cons.mp unknown
      obtain ⟨value, found⟩ := mem_keys_iff.mp present
      simp only [optionNames, List.mem_cons, List.not_mem_nil, or_false, not_or] at notOption
      rw [← List.singleton_append, complaintsUnder_append, complaintsUnder_singleton, ih others,
        found]
      simp [Fits, complaintAbout, notOption]

theorem complaintsOf_depthOf (place : String) (parser : List (String × Setting)) :
    complaintsOf (depthOf place parser) = complaintsUnder place ["max_depth"] parser := by
  rw [depthOf, complaintsUnder_singleton]
  cases parser.lookup "max_depth" with
  | none => rfl
  | some value =>
      cases value with
      | integer depth =>
          by_cases isDepth : IsDepth depth <;>
            simp [Complaint.checkDepth, checkRange_eq, complaintsOf, Fits, Setting.integer?,
              complaintAbout, isDepth]
      | null | boolean | real | text | moment | list | table =>
          simp [Complaint.checkDepth, complaintsOf, Fits, Setting.integer?, complaintAbout]

theorem complaintsOf_anyCaseOf (place : String) (parser : List (String × Setting)) :
    complaintsOf (anyCaseOf place parser) =
      complaintsUnder place ["case_insensitive_operators"] parser := by
  rw [anyCaseOf, complaintsUnder_singleton]
  cases parser.lookup "case_insensitive_operators" with
  | none => rfl
  | some value =>
      cases value with
      | null | boolean | integer | real | text | moment | list | table =>
          simp [complaintsOf, Fits, Setting.boolean?, complaintAbout]

/-- There is one complaint for each entry at fault. -/
theorem tableComplaints_eq_map (place : String) (parser : List (String × Setting)) :
    tableComplaints place parser = (offendersOf parser).map (complaintAbout place) := by
  have unknown : ∀ name ∈ unknownNames optionNames (keys parser),
      name ∈ keys parser ∧ name ∉ optionNames := fun _ => mem_unknownNames.mp
  calc tableComplaints place parser
      = complaintsUnder place (unknownNames optionNames (keys parser)) parser ++
          complaintsUnder place ["max_depth"] parser ++
          complaintsUnder place ["case_insensitive_operators"] parser := by
        rw [tableComplaints, complaintsOf_depthOf, complaintsOf_anyCaseOf,
          complaintsUnder_unknown place unknown]
        rfl
    _ = complaintsUnder place (unknownNames optionNames (keys parser) ++ optionNames) parser := by
        rw [← complaintsUnder_append, ← complaintsUnder_append, List.append_assoc]
        rfl
    _ = (offendersOf parser).map (complaintAbout place) := rfl

/-! ## Acceptance -/

/-- All entries of a parser table are options with values that they can have. -/
def AllFit (parser : List (String × Setting)) : Prop :=
  ∀ key value, parser.lookup key = some value → Fits key value

/-- Settings without fault, and the options that they stand for. -/
structure Accepts (settings : List (String × Setting)) (options : Options) : Prop where
  known : ∀ key ∈ keys settings, key = "parser"
  parser : ∃ parser, under "parser" settings = .table parser ∧ AllFit parser ∧
    options.maxDepth = (integerUnder? "max_depth" parser).getD 64 ∧
    options.anyCase = (booleanUnder? "case_insensitive_operators" parser).getD false

theorem offendersOf_eq_nil_iff {parser : List (String × Setting)} :
    offendersOf parser = [] ↔ AllFit parser := by
  rw [List.eq_nil_iff_forall_not_mem]
  constructor
  · intro none key value found
    by_contra offends
    exact none (key, value) ((areOffenders_offendersOf parser).mem_iff key value |>.mpr
      ⟨found, offends⟩)
  · intro allFit ⟨key, value⟩ member
    obtain ⟨found, offends⟩ := ((areOffenders_offendersOf parser).mem_iff key value).mp member
    exact offends (allFit key value found)

theorem tableComplaints_eq_nil_iff (place : String) {parser : List (String × Setting)} :
    tableComplaints place parser = [] ↔ AllFit parser := by
  rw [tableComplaints_eq_map, List.map_eq_nil_iff, offendersOf_eq_nil_iff]

theorem eq_of_ofParserTable_eq_ok {place : String} {parser : List (String × Setting)}
    {options : Options} (settled : ofParserTable place parser = .ok options) :
    options = ⟨(integerUnder? "max_depth" parser).getD 64,
      (booleanUnder? "case_insensitive_operators" parser).getD false⟩ := by
  obtain ⟨-, depth, anyCase⟩ := ofParserTable_eq_ok_iff.mp settled
  rw [← (depthOf_eq_ok depth).1, ← anyCaseOf_eq_ok anyCase]

theorem ofParserTable_eq_ok_iff_allFit {place : String} {parser : List (String × Setting)}
    {options : Options} :
    ofParserTable place parser = .ok options ↔
      AllFit parser ∧ options.maxDepth = (integerUnder? "max_depth" parser).getD 64 ∧
        options.anyCase = (booleanUnder? "case_insensitive_operators" parser).getD false := by
  constructor
  · intro settled
    have right := exists_ofParserTable_eq_ok_iff.mp ⟨options, settled⟩
    refine ⟨(tableComplaints_eq_nil_iff _).mp right, ?_⟩
    rw [eq_of_ofParserTable_eq_ok settled]
    exact ⟨rfl, rfl⟩
  · rintro ⟨allFit, depth, anyCase⟩
    obtain ⟨other, settled⟩ := exists_ofParserTable_eq_ok_iff.mpr
      ((tableComplaints_eq_nil_iff place).mpr allFit)
    rw [settled, eq_of_ofParserTable_eq_ok settled, ← depth, ← anyCase]

theorem unknownNames_eq_nil_iff {names : List String} :
    unknownNames ["parser"] names = [] ↔ ∀ name ∈ names, name = "parser" := by
  simp [List.eq_nil_iff_forall_not_mem, mem_unknownNames]

theorem ofSection_eq_ok_iff_accepts {place : String} {settings : List (String × Setting)}
    {options : Options} :
    ofSection place (.table settings) = .ok options ↔ Accepts settings options := by
  rw [ofSection_eq_ok_iff]
  constructor
  · rintro ⟨entries, parser, same, known, isTable, settled⟩
    obtain rfl := Setting.table.inj same
    exact ⟨unknownNames_eq_nil_iff.mp known, parser, isTable,
      ofParserTable_eq_ok_iff_allFit.mp settled⟩
  · rintro ⟨known, parser, isTable, fits⟩
    exact ⟨settings, parser, rfl, unknownNames_eq_nil_iff.mpr known, isTable,
      ofParserTable_eq_ok_iff_allFit.mpr fits⟩

/-! ## Refusal -/

/-- What is complained about in settings at a place. -/
inductive Faults (place : String) (settings : List (String × Setting)) : List Complaint → Prop where
  /-- Unknown keys beside the parser table, which is not looked at then. -/
  | strangers {names : List String} :
      (∀ name, name ∈ names ↔ name ∈ keys settings ∧ name ≠ "parser") →
      names.Pairwise (· < ·) → names ≠ [] →
      Faults place settings (names.map fun name => .unknownKey place (.text name))
  /-- Something else in the place of the parser table. -/
  | noParserTable :
      (∀ key ∈ keys settings, key = "parser") → (under "parser" settings).entries? = none →
      Faults place settings [.parserNotTable place]
  /-- Entries at fault in the parser table. -/
  | parserTable {parser offenders : List (String × Setting)} :
      (∀ key ∈ keys settings, key = "parser") → under "parser" settings = .table parser →
      AreOffenders parser offenders → offenders ≠ [] →
      Faults place settings (offenders.map (complaintAbout (place ++ " [parser]")))

/-- Settings that are not accepted have faults, which is what loading reports. -/
theorem exists_faults_of_not_accepted {settings : List (String × Setting)}
    (refused : ¬∃ options, Accepts settings options) (place : String) :
    ∃ complaints, Faults place settings complaints ∧
      ofSection place (.table settings) = .error (.ofComplaints complaints) := by
  by_cases known : unknownNames ["parser"] (keys settings) = []
  case neg =>
    refine ⟨_, .strangers ?_ (Text.pairwise_sortedDistinct _) known,
      ofSection_of_strangers known⟩
    intro name
    rw [← unknownNames, mem_unknownNames, List.mem_singleton]
  case pos =>
    have onlyParser : ∀ key ∈ keys settings, key = "parser" := unknownNames_eq_nil_iff.mp known
    cases found : (under "parser" settings).entries? with
    | none => exact ⟨_, .noParserTable onlyParser found, ofSection_of_not_table known found⟩
    | some parser =>
        have isTable : under "parser" settings = .table parser :=
          Setting.entries?_eq_some_iff.mp found
        have wrong : tableComplaints (place ++ " [parser]") parser ≠ [] := by
          intro right
          obtain ⟨options, settled⟩ := exists_ofParserTable_eq_ok_iff.mpr right
          rw [← ofSection_of_table known isTable, ofSection_eq_ok_iff_accepts] at settled
          exact refused ⟨options, settled⟩
        have offenders : offendersOf parser ≠ [] := fun none =>
          wrong ((tableComplaints_eq_nil_iff _).mpr (offendersOf_eq_nil_iff.mp none))
        refine ⟨_, .parserTable onlyParser isTable (areOffenders_offendersOf parser) offenders, ?_⟩
        rw [ofSection_of_table known isTable, ofParserTable_of_complaints wrong,
          tableComplaints_eq_map]

theorem AreOffenders.unique {parser offenders others : List (String × Setting)}
    (areOffenders : AreOffenders parser offenders) (othersAre : AreOffenders parser others) :
    offenders = others :=
  eq_of_pairwise_of_mem_iff precedes_asymm areOffenders.ordered othersAre.ordered fun entry =>
    (areOffenders.mem_iff entry.1 entry.2).trans (othersAre.mem_iff entry.1 entry.2).symm

/-- The faults of some settings leave no choice of what to complain about. -/
theorem Faults.unique {place : String} {settings : List (String × Setting)}
    {complaints others : List Complaint} (faults : Faults place settings complaints)
    (otherFaults : Faults place settings others) : complaints = others := by
  have onlyParser {names : List String} (known : ∀ key ∈ keys settings, key = "parser")
      (mem_iff : ∀ name, name ∈ names ↔ name ∈ keys settings ∧ name ≠ "parser") : names = [] :=
    List.eq_nil_iff_forall_not_mem.mpr fun name member =>
      ((mem_iff name).mp member).2 (known name ((mem_iff name).mp member).1)
  cases faults with
  | strangers mem_iff ascending some =>
      cases otherFaults with
      | strangers otherMem_iff otherAscending =>
          rw [eq_of_pairwise_of_mem_iff String.lt_asymm ascending otherAscending fun name =>
            (mem_iff name).trans (otherMem_iff name).symm]
      | noParserTable known => exact absurd (onlyParser known mem_iff) some
      | parserTable known => exact absurd (onlyParser known mem_iff) some
  | noParserTable known missing =>
      cases otherFaults with
      | strangers mem_iff ascending some => exact absurd (onlyParser known mem_iff) some
      | noParserTable => rfl
      | parserTable _ isTable => simp [isTable] at missing
  | parserTable known isTable areOffenders =>
      cases otherFaults with
      | strangers mem_iff ascending some => exact absurd (onlyParser known mem_iff) some
      | noParserTable _ missing => simp [isTable] at missing
      | parserTable _ otherIsTable otherAreOffenders =>
          obtain rfl := Setting.table.inj (isTable.symm.trans otherIsTable)
          rw [areOffenders.unique otherAreOffenders]

theorem ofSection_of_faults {place : String} {settings : List (String × Setting)}
    {complaints : List Complaint} (faults : Faults place settings complaints) :
    ofSection place (.table settings) = .error (.ofComplaints complaints) := by
  have refused : ¬∃ options, Accepts settings options := by
    rintro ⟨options, known, parser, isTable, allFit, -⟩
    cases faults with
    | @strangers names mem_iff _ some =>
        obtain ⟨name, member⟩ := List.exists_mem_of_ne_nil names some
        obtain ⟨isKey, notParser⟩ := (mem_iff name).mp member
        exact notParser (known name isKey)
    | noParserTable _ missing => simp [isTable] at missing
    | parserTable _ isTableToo areOffenders some =>
        obtain rfl := Setting.table.inj (isTable.symm.trans isTableToo)
        rw [areOffenders.unique (areOffenders_offendersOf parser)] at some
        exact some (offendersOf_eq_nil_iff.mpr allFit)
  obtain ⟨others, otherFaults, settled⟩ := exists_faults_of_not_accepted refused place
  rw [faults.unique otherFaults, settled]

/-! ## What plays no role -/

/-- The same values under the same keys, in whatever order. -/
def SameEntries (first second : List (String × Setting)) : Prop :=
  ∀ key, first.lookup key = second.lookup key

/-- The same keys, and the same entries of the parser table, if there is one. -/
structure SameSettings (first second : List (String × Setting)) : Prop where
  sameKeys : ∀ key, key ∈ keys first ↔ key ∈ keys second
  sameParser :
    Option.Rel SameEntries (under "parser" first).entries? (under "parser" second).entries?

variable {first second : List (String × Setting)}

theorem unknownNames_congr (known : List String) {names others : List String}
    (same : ∀ name, name ∈ names ↔ name ∈ others) :
    unknownNames known names = unknownNames known others := by
  refine eq_of_pairwise_of_mem_iff String.lt_asymm (Text.pairwise_sortedDistinct _)
    (Text.pairwise_sortedDistinct _) fun name => ?_
  rw [mem_unknownNames, mem_unknownNames, same]

theorem SameEntries.ofParserTable_eq (same : SameEntries first second) (place : String) :
    ofParserTable place first = ofParserTable place second := by
  have sameKeys (key : String) : key ∈ keys first ↔ key ∈ keys second := by
    rw [mem_keys_iff, mem_keys_iff, same key]
  have strangers : strangersOf place first = strangersOf place second := by
    rw [strangersOf, strangersOf, unknownNames_congr _ sameKeys]
  have depth : depthOf place first = depthOf place second := by rw [depthOf, depthOf, same]
  have anyCase : anyCaseOf place first = anyCaseOf place second := by
    rw [anyCaseOf, anyCaseOf, same]
  rw [ofParserTable, ofParserTable, strangers, depth, anyCase]

theorem SameSettings.ofSection_eq (same : SameSettings first second) (place : String) :
    ofSection place (.table first) = ofSection place (.table second) := by
  have sameUnknown := unknownNames_congr ["parser"] same.sameKeys
  by_cases known : unknownNames ["parser"] (keys first) = []
  case neg =>
    rw [ofSection_of_strangers known, ofSection_of_strangers (sameUnknown ▸ known), sameUnknown]
  case pos =>
    have tables := same.sameParser
    generalize found : (under "parser" first).entries? = parser at tables
    generalize foundToo : (under "parser" second).entries? = other at tables
    have knownToo : unknownNames ["parser"] (keys second) = [] := sameUnknown ▸ known
    cases tables with
    | none => rw [ofSection_of_not_table known found, ofSection_of_not_table knownToo foundToo]
    | some sameParser =>
        rw [Setting.entries?_eq_some_iff] at found foundToo
        rw [ofSection_of_table known found, ofSection_of_table knownToo foundToo,
          sameParser.ofParserTable_eq]

/-! ## Files that set only the depth -/

def ownFile : Path := ⟨0, ["licensekit.toml"]⟩

/-- A settings file with the depth in hexadecimal digits, and nothing beside it. -/
def depthFile (width number : Nat) : FileTree :=
  .directory [("licensekit.toml", .file (Text.asciiBytes (Toml.hexadecimalDepth width number)))]

def depthSettings (number : Nat) : List (String × Setting) :=
  [("parser", .table [("max_depth", .integer number)])]

theorem holdsDocument_depthFile {width number : Nat} (positive : 0 < width)
    (fits : number < 16 ^ width) :
    HoldsDocument (depthFile width number) [] ownFile (depthSettings number) := by
  have usable : ownFile.holdsNull = false := by decide
  have read : (depthFile width number).read [] ownFile =
      .ok (Text.asciiBytes (Toml.hexadecimalDepth width number)) := by
    have short : ¬ownFile.text.utf8ByteSize ≥ FileTree.pathLimit := by decide +kernel
    rw [FileTree.read, if_neg short]
    rfl
  exact ⟨usable, _, read, documentOf_hexadecimalDepth positive fits ownFile⟩

theorem sectionOf?_ownFile (document : List (String × Setting)) :
    sectionOf? ownFile document = some (.table document) := by
  have notShared : ownFile.lastName ≠ sharedFileName := by decide
  rw [sectionOf?, if_neg notShared]

theorem lookup_singleton_eq_some_iff {name key : String} {given value : Setting} :
    [(name, given)].lookup key = some value ↔ key = name ∧ value = given := by
  by_cases same : key = name
  · simp [same, eq_comm]
  · simp [same, List.lookup_cons, beq_false_of_ne same]

theorem accepts_depthSettings {number : Nat} (isDepth : IsDepth number) :
    Accepts (depthSettings number) ⟨number, false⟩ where
  known := by simp [depthSettings, keys]
  parser := by
    refine ⟨[("max_depth", .integer number)], rfl, ?_, rfl, rfl⟩
    intro key value found
    obtain ⟨rfl, rfl⟩ := lookup_singleton_eq_some_iff.mp found
    exact .inl ⟨rfl, number, rfl, isDepth⟩

theorem faults_depthSettings {number : Nat} (notDepth : ¬IsDepth number) (place : String) :
    Faults place (depthSettings number) [.depthOutOfRange (place ++ " [parser]") number] := by
  have offends : ¬Fits "max_depth" (.integer number) := by
    simpa [Fits, Setting.integer?] using notDepth
  have areOffenders : AreOffenders [("max_depth", .integer number)]
      [("max_depth", .integer number)] := by
    refine ⟨?_, List.pairwise_singleton _ _⟩
    intro key value
    rw [List.mem_singleton, Prod.mk.injEq, lookup_singleton_eq_some_iff]
    refine ⟨?_, And.left⟩
    rintro ⟨rfl, rfl⟩
    exact ⟨⟨rfl, rfl⟩, offends⟩
  exact .parserTable (by simp [depthSettings, keys]) rfl areOffenders (List.cons_ne_nil _ _)

theorem not_isDepth_of_long {number : Nat} (long : 10 ^ Text.digitLimit ≤ number) :
    ¬IsDepth number := by
  rintro ⟨-, atMost⟩
  have large : 10 ^ 3 ≤ 10 ^ Text.digitLimit := Nat.pow_le_pow_right (by decide) (by decide)
  omega

/-- A depth of too many digits is neither accepted nor complained about. -/
theorem load_depthFile_of_long {width number : Nat} (positive : 0 < width)
    (fits : number < 16 ^ width) (long : 10 ^ Text.digitLimit ≤ number) :
    load (depthFile width number) [] ownFile = .error .integerTooLong := by
  have tooLong : Text.hasWritableLength number = false := by
    rw [Bool.eq_false_iff, Ne, Text.hasWritableLength_iff,
      Text.length_decimalDigits_le_iff (by decide), Int.natAbs_natCast]
    exact Nat.not_lt.mpr long
  have holds := holdsDocument_depthFile positive fits
  rw [load_of_holdsDocument holds, ofDocument_of_sectionOf? (sectionOf?_ownFile _),
    ofSection_of_faults (faults_depthSettings (not_isDepth_of_long long) _)]
  simp [LoadError.ofComplaints, Complaint.isWritable, tooLong]

theorem ten_pow_le_sixteen_pow (count : Nat) : 10 ^ (7 * count) ≤ 16 ^ (6 * count) := by
  rw [Nat.pow_mul, Nat.pow_mul]
  exact Nat.pow_le_pow_left (by decide) count

/-- How many hexadecimal zeros make a number that is too long to be shown. -/
def manyZeros : Nat := 6 * 615

theorem ten_pow_digitLimit_le : 10 ^ Text.digitLimit ≤ 16 ^ manyZeros := by
  rw [manyZeros]
  exact (Nat.pow_le_pow_right (by decide) (by decide)).trans (ten_pow_le_sixteen_pow 615)

/-! ## Main results -/

/-- Loading a file whose section is a table succeeds exactly if the settings in it are accepted,
with the options that they stand for.  Settings that are not accepted have faults; loading then
ends with the complaints about all of them, unless one would have to show an integer of too many
digits.  Any file at the path whose section holds the same settings leads to the same. -/
theorem load_settings_verdict {tree : FileTree} {workingDirectory : List String} {path : Path}
    {document settings : List (String × Setting)}
    (holds : HoldsDocument tree workingDirectory path document)
    (isSection : sectionOf? path document = some (.table settings)) :
    (∀ options, load tree workingDirectory path = .ok options ↔ Accepts settings options) ∧
    ((¬∃ options, Accepts settings options) →
      ∃ complaints, Faults (sectionPlace path) settings complaints) ∧
    (∀ complaints, Faults (sectionPlace path) settings complaints →
      load tree workingDirectory path =
        .error (if complaints.all Complaint.isWritable then .refused complaints
          else .integerTooLong)) ∧
    ∀ (otherTree : FileTree) (otherDirectory : List String)
      (otherDocument otherSettings : List (String × Setting)),
      HoldsDocument otherTree otherDirectory path otherDocument →
      sectionOf? path otherDocument = some (.table otherSettings) →
      SameSettings settings otherSettings →
      load otherTree otherDirectory path = load tree workingDirectory path := by
  have loads : load tree workingDirectory path =
      ofSection (sectionPlace path) (.table settings) := by
    rw [load_of_holdsDocument holds, ofDocument_of_sectionOf? isSection]
  refine ⟨?_, ?_, ?_, ?_⟩
  · intro options
    rw [loads, ofSection_eq_ok_iff_accepts]
  · intro refused
    obtain ⟨complaints, faults, -⟩ := exists_faults_of_not_accepted refused (sectionPlace path)
    exact ⟨complaints, faults⟩
  · intro complaints faults
    rw [loads, ofSection_of_faults faults]
    rfl
  · intro otherTree otherDirectory otherDocument otherSettings otherHolds otherSection same
    rw [loads, load_of_holdsDocument otherHolds, ofDocument_of_sectionOf? otherSection,
      same.ofSection_eq]

/-- Five is a depth and zero is none, with one digit or with two. -/
theorem load_settings_verdict_five_zero :
    load (depthFile 1 5) [] ownFile = .ok ⟨5, false⟩ ∧
    load (depthFile 1 0) [] ownFile =
      .error (.refused [.depthOutOfRange "licensekit.toml [parser]" 0]) ∧
    load (depthFile 2 0) [] ownFile = load (depthFile 1 0) [] ownFile := by
  have same : SameSettings (depthSettings 0) (depthSettings 0) := by
    refine ⟨fun key => Iff.rfl, ?_⟩
    exact .some fun key => rfl
  obtain ⟨accepted, -⟩ := load_settings_verdict
    (holdsDocument_depthFile (by decide : 0 < 1) (by decide : 5 < 16 ^ 1))
    (sectionOf?_ownFile (depthSettings 5))
  obtain ⟨-, -, refused, alike⟩ := load_settings_verdict
    (holdsDocument_depthFile (by decide : 0 < 1) (by decide : 0 < 16 ^ 1))
    (sectionOf?_ownFile (depthSettings 0))
  refine ⟨?_, ?_, ?_⟩
  · exact (accepted ⟨5, false⟩).mpr (accepts_depthSettings (by decide))
  · have place : sectionPlace ownFile = "licensekit.toml" := by decide +kernel
    have short : (Text.decimalDigits (0 : Int).natAbs).length ≤ 4300 := by
      simp [Text.decimalDigits]
    have writable : Text.hasWritableLength 0 = true := Text.hasWritableLength_iff.mpr short
    rw [refused _ (faults_depthSettings (by decide) _), place]
    simp [Complaint.isWritable, writable]
  · exact alike (depthFile 2 0) [] _ _ (holdsDocument_depthFile (by decide) (by decide))
      (sectionOf?_ownFile _) same

/-- The digit one with 3690 zeros after it stands for a number of 4444 decimal digits. -/
theorem huge_depth_not_answered :
    HoldsDocument (depthFile (manyZeros + 1) (16 ^ manyZeros)) [] ownFile
      (depthSettings (16 ^ manyZeros)) ∧
    load (depthFile (manyZeros + 1) (16 ^ manyZeros)) [] ownFile = .error .integerTooLong ∧
    ¬∀ (tree : FileTree) (workingDirectory : List String) (path : Path)
        (document settings : List (String × Setting)),
      HoldsDocument tree workingDirectory path document →
      sectionOf? path document = some (.table settings) →
      (∃ options, load tree workingDirectory path = .ok options) ∨
        ∃ complaints, load tree workingDirectory path = .error (.refused complaints) := by
  have fits : 16 ^ manyZeros < 16 ^ (manyZeros + 1) :=
    Nat.pow_lt_pow_right (by decide) (Nat.lt_succ_self manyZeros)
  have positive : 0 < manyZeros + 1 := Nat.succ_pos manyZeros
  have holds := holdsDocument_depthFile positive fits
  have fails := load_depthFile_of_long positive fits ten_pow_digitLimit_le
  refine ⟨holds, fails, ?_⟩
  intro always
  rcases always _ _ _ _ _ holds (sectionOf?_ownFile _) with
    ⟨options, loaded⟩ | ⟨complaints, refused⟩
  · cases fails.symm.trans loaded
  · cases fails.symm.trans refused

end Settings

end LicenseExpr
