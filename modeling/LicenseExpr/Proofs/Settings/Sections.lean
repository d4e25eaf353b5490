import LicenseExpr.Settings.Document

/-!
# What a settings document decides

The table with the options of the parser is two or four steps down in a settings
document, and a step that is left out leads to an empty table.  Loading succeeds
exactly if there is such a table, nothing unknown stands on the way to it or in
it, and its values are a depth within the range and a truth value.
-/

namespace LicenseExpr

namespace Setting

/-- The entries of a table; no other value has any. -/
def entries? : Setting → Option (List (String × Setting))
  | .table entries => some entries
  | _ => none

@[simp] theorem entries?_table (entries : List (String × Setting)) :
    (Setting.table entries).entries? = some entries :=
  rfl

theorem entries?_eq_some_iff {value : Setting} {entries : List (String × Setting)} :
    value.entries? = some entries ↔ value = .table entries := by
  cases value <;> simp [entries?]

theorem entries?_eq_none_iff {value : Setting} :
    value.entries? = none ↔ ∀ entries, value ≠ .table entries := by
  cases value <;> simp [entries?]

end Setting

namespace Settings

/-! ## The way to the options -/

/-- What a table has under a key. Where the key is left out, that is an empty table. -/
def under (key : String) (entries : List (String × Setting)) : Setting :=
  (entries.lookup key).getD (.table [])

/-- The section of a document that is about this program, if there is a way to it. -/
def sectionOf? (path : Path) (document : List (String × Setting)) : Option Setting :=
  if path.lastName = sharedFileName then
    (under "tool" document).entries?.map (under "licensekit")
  else some (.table document)

/-- How messages name the section of the file at a path. -/
def sectionPlace (path : Path) : String :=
  if path.lastName = sharedFileName then path.text ++ " [tool.licensekit]" else path.text

/-- The table with the options of the parser, if there is a way to it. -/
def parserTable? (path : Path) (document : List (String × Setting)) :
    Option (List (String × Setting)) :=
  (sectionOf? path document).bind fun top =>
    top.entries?.bind fun entries => (under "parser" entries).entries?

/-- The file that a path names can be read, and holds a settings document. -/
def HoldsDocument (tree : FileTree) (workingDirectory : List String) (path : Path)
    (document : List (String × Setting)) : Prop :=
  path.holdsNull = false ∧ ∃ content, tree.read workingDirectory path = .ok content ∧
    documentOf path content = .ok document

theorem ofDocument_of_sectionOf? {path : Path} {document : List (String × Setting)}
    {value : Setting} (found : sectionOf? path document = some value) :
    ofDocument path document = ofSection (sectionPlace path) value := by
  unfold sectionOf? at found
  unfold ofDocument sectionPlace
  split
  case isTrue shared =>
    rw [if_pos shared, Option.map_eq_some_iff] at found
    obtain ⟨tools, isTable, rfl⟩ := found
    rw [under, Setting.entries?_eq_some_iff] at isTable
    simp only [isTable, under]
  case isFalse own =>
    rw [if_neg own, Option.some.injEq] at found
    rw [found]

theorem ofDocument_of_sectionOf?_eq_none {path : Path} {document : List (String × Setting)}
    (missing : sectionOf? path document = none) :
    ofDocument path document = .error (.noEntries (under "tool" document)) := by
  unfold sectionOf? at missing
  unfold ofDocument
  split
  case isTrue shared =>
    rw [if_pos shared, Option.map_eq_none_iff, Setting.entries?_eq_none_iff] at missing
    split
    case h_1 tools isTable => exact absurd isTable (missing tools)
    case h_2 => rfl
  case isFalse own =>
    rw [if_neg own] at missing
    cases missing

/-- Loading is reading the file, then its document, and then what the document says. -/
theorem load_of_holdsDocument {tree : FileTree} {workingDirectory : List String} {path : Path}
    {document : List (String × Setting)}
    (holds : HoldsDocument tree workingDirectory path document) :
    load tree workingDirectory path = ofDocument path document := by
  obtain ⟨usable, content, read, decoded⟩ := holds
  rw [load, usable, read]
  simp only [Bool.false_eq_true, if_false, decoded]

theorem load_eq_ok_iff {tree : FileTree} {workingDirectory : List String} {path : Path}
    {options : Options} :
    load tree workingDirectory path = .ok options ↔
      ∃ document, HoldsDocument tree workingDirectory path document ∧
        ofDocument path document = .ok options := by
  constructor
  · intro loaded
    rw [load] at loaded
    cases usable : path.holdsNull with
    | true => simp [usable] at loaded
    | false =>
        rw [usable, if_neg Bool.false_ne_true] at loaded
        cases read : tree.read workingDirectory path with
        | error fault => simp [read] at loaded
        | ok content =>
            cases decoded : documentOf path content with
            | error error => simp [read, decoded] at loaded
            | ok document =>
                refine ⟨document, ⟨usable, content, read, decoded⟩, ?_⟩
                simpa [read, decoded] using loaded
  · rintro ⟨document, holds, settled⟩
    rw [load_of_holdsDocument holds, settled]

/-! ## Sections -/

theorem ofSection_of_strangers {place : String} {entries : List (String × Setting)}
    (strangers : unknownNames ["parser"] (keys entries) ≠ []) :
    ofSection place (.table entries) =
      .error (.ofComplaints ((unknownNames ["parser"] (keys entries)).map fun key =>
        .unknownKey place (.text key))) := by
  unfold ofSection
  simp only [unknownKeys]
  cases named : unknownNames ["parser"] (keys entries) with
  | nil => exact absurd named strangers
  | cons first others => simp [Function.comp_def]

theorem ofSection_of_table {place : String} {entries parser : List (String × Setting)}
    (known : unknownNames ["parser"] (keys entries) = [])
    (isTable : under "parser" entries = .table parser) :
    ofSection place (.table entries) = ofParserTable (place ++ " [parser]") parser := by
  rw [under] at isTable
  simp [ofSection, unknownKeys, known, isTable]

theorem ofSection_of_not_table {place : String} {entries : List (String × Setting)}
    (known : unknownNames ["parser"] (keys entries) = [])
    (notTable : (under "parser" entries).entries? = none) :
    ofSection place (.table entries) = .error (.refused [.parserNotTable place]) := by
  rw [Setting.entries?_eq_none_iff, under] at notTable
  simp only [ofSection, unknownKeys, known, List.map_nil]

theorem ofSection_eq_ok_iff {place : String} {value : Setting} {options : Options} :
    ofSection place value = .ok options ↔
      ∃ entries parser, value = .table entries ∧ unknownNames ["parser"] (keys entries) = [] ∧
        under "parser" entries = .table parser ∧
        ofParserTable (place ++ " [parser]") parser = .ok options := by
  constructor
  · intro settled
    cases value with
    | table entries =>
        by_cases known : unknownNames ["parser"] (keys entries) = []
        case neg => simp [ofSection_of_strangers known] at settled
        case pos =>
          cases found : (under "parser" entries).entries? with
          | none => simp [ofSection_of_not_table known found] at settled
          | some parser =>
              rw [Setting.entries?_eq_some_iff] at found
              rw [ofSection_of_table known found] at settled
              exact ⟨entries, parser, rfl, known, found, settled⟩
    | text value =>
        unfold ofSection at settled
        split at settled <;> simp at settled
    | list items =>
        unfold ofSection at settled
        split at settled <;> simp at settled
    | null | boolean | integer | real | moment => simp [ofSection, unknownKeys] at settled
  · rintro ⟨entries, parser, rfl, known, isTable, settled⟩
    rw [ofSection_of_table known isTable, settled]

/-! ## The options of a parser table -/

/-- All that is wrong with a parser table. -/
def tableComplaints (place : String) (entries : List (String × Setting)) : List Complaint :=
  strangersOf place entries ++ complaintsOf (depthOf place entries) ++
    complaintsOf (anyCaseOf place entries)

theorem ofParserTable_of_complaints {place : String} {entries : List (String × Setting)}
    (wrong : tableComplaints place entries ≠ []) :
    ofParserTable place entries = .error (.ofComplaints (tableComplaints place entries)) := by
  unfold ofParserTable
  split
  case h_1 known depth anyCase =>
    simp [tableComplaints, known, depth, anyCase, complaintsOf] at wrong
  case h_2 => rfl

theorem ofParserTable_eq_ok_iff {place : String} {entries : List (String × Setting)}
    {options : Options} :
    ofParserTable place entries = .ok options ↔
      strangersOf place entries = [] ∧ depthOf place entries = .ok options.maxDepth ∧
        anyCaseOf place entries = .ok options.anyCase := by
  obtain ⟨maxDepth, anyCase⟩ := options
  unfold ofParserTable
  cases strangersOf place entries <;> cases depthOf place entries <;>
    cases anyCaseOf place entries <;> simp

theorem exists_ofParserTable_eq_ok_iff {place : String} {entries : List (String × Setting)} :
    (∃ options, ofParserTable place entries = .ok options) ↔
      tableComplaints place entries = [] := by
  constructor
  · rintro ⟨options, settled⟩
    obtain ⟨known, depth, anyCase⟩ := ofParserTable_eq_ok_iff.mp settled
    simp [tableComplaints, known, depth, anyCase, complaintsOf]
  · intro right
    simp only [tableComplaints, List.append_eq_nil_iff] at right
    obtain ⟨⟨known, depthFine⟩, anyCaseFine⟩ := right
    cases depth : depthOf place entries with
    | error complaint => simp [depth, complaintsOf] at depthFine
    | ok maxDepth =>
        cases anyCase : anyCaseOf place entries with
        | error complaint => simp [anyCase, complaintsOf] at anyCaseFine
        | ok value =>
            exact ⟨⟨maxDepth, value⟩, ofParserTable_eq_ok_iff.mpr ⟨known, depth, anyCase⟩⟩

end Settings

end LicenseExpr
