import Mathlib.Data.List.SplitBy
import LicenseExpr.Parsing
import LicenseExpr.Proofs.Text.UpperCase
import LicenseExpr.Proofs.Token.Words

/-!
# Keywords in any case

To accept keywords in any case is to put them in upper case first, and to leave
all other words as they are.  A word counts as a keyword if its upper case is
one; with the twenty-six letters alone that is so of the words `or`, `and` and
`with` in all their casings.  One word more becomes a keyword: `with`, when it
is written with the dotless i.  Texts without that word have the same tokens as
the texts with their keywords in upper case, and other texts do not.
-/

namespace LicenseExpr

namespace Token

open LicenseExpr.Text

variable {anyCase : Bool} {raise : Char → Char} {char : Char} {text run rest piece : List Char}

/-! ## Runs and single characters -/

/-- The text in pieces: its runs, as long as possible, and every other character alone. -/
def pieces (text : List Char) : List (List Char) :=
  text.splitBy fun first second => isRunChar first && isRunChar second

/-- A text that is a run. -/
def IsRun (run : List Char) : Prop :=
  run ≠ [] ∧ ∀ char ∈ run, isRunChar char = true

/-- No run goes on at the front of a text. -/
def StartsAfresh (text : List Char) : Prop :=
  ∀ char ∈ text.head?, isRunChar char = false

/-- A text is made up of characters that delimit, and of runs with none directly behind them. -/
theorem runs_induction {motive : List Char → Prop} (nil : motive [])
    (delimiter : ∀ char rest, isRunChar char = false → motive rest → motive (char :: rest))
    (run : ∀ run rest, IsRun run → StartsAfresh rest → motive rest → motive (run ++ rest)) :
    ∀ text, motive text
  | [] => nil
  | char :: text => by
      cases isRun : isRunChar char with
      | false => exact delimiter char text isRun (runs_induction nil delimiter run text)
      | true =>
          have isRunFront : IsRun (char :: text.takeWhile isRunChar) := by
            refine ⟨List.cons_ne_nil _ _, List.forall_mem_cons.mpr ⟨isRun, ?_⟩⟩
            exact List.all_eq_true.mp List.all_takeWhile
          have afresh : StartsAfresh (text.dropWhile isRunChar) := by
            intro other first
            have stops := List.head?_dropWhile_not isRunChar text
            rw [Option.mem_def.mp first] at stops
            simpa using stops
          have later := runs_induction nil delimiter run (text.dropWhile isRunChar)
          have whole := run _ _ isRunFront afresh later
          rwa [List.cons_append, List.takeWhile_append_dropWhile] at whole
termination_by text => text.length
decreasing_by
  · simp
  · exact Nat.lt_succ_of_le (List.dropWhile_sublist _).length_le

theorem pieces_delimiter (ends : isRunChar char = false) :
    pieces (char :: rest) = [char] :: pieces rest := by
  have parted : pieces ([char] ++ rest) = pieces [char] ++ pieces rest := by
    apply List.splitBy_append
    simp [ends]
  exact parted

theorem pieces_run_append (isRun : IsRun run) (afresh : StartsAfresh rest) :
    pieces (run ++ rest) = run :: pieces rest := by
  have parted : pieces (run ++ rest) = pieces run ++ pieces rest := by
    apply List.splitBy_append
    intro last _ first inRest
    simp [afresh first inRest]
  have whole : pieces run = [run] := by
    apply List.splitBy_of_isChain isRun.1
    apply List.Pairwise.isChain
    apply List.pairwise_of_forall_mem_list
    intro first inFirst second inSecond
    simp [isRun.2 first inFirst, isRun.2 second inSecond]
  rw [parted, whole, List.singleton_append]

theorem mem_pieces (member : piece ∈ pieces text) :
    IsRun piece ∨ ∃ char, piece = [char] ∧ isRunChar char = false := by
  induction text using runs_induction with
  | nil => cases member
  | delimiter char rest ends ih =>
      rw [pieces_delimiter ends] at member
      rcases List.mem_cons.mp member with rfl | later
      · exact .inr ⟨char, rfl, ends⟩
      · exact ih later
  | run run rest isRun afresh ih =>
      rw [pieces_run_append isRun afresh] at member
      rcases List.mem_cons.mp member with rfl | later
      · exact .inl isRun
      · exact ih later

/-! ## Tokens of pieces -/

theorem scan_append_of_startsAfresh (afresh : StartsAfresh rest) :
    scan anyCase (text ++ rest) = scan anyCase text ++ scan anyCase rest := by
  cases rest with
  | nil => simp [scan]
  | cons char rest => exact scan_append_delimiter text (afresh char rfl)

/-- A character that delimits has its tokens in front of any text, with keywords in any case or
not. -/
theorem exists_scan_delimiter (ends : isRunChar char = false) :
    ∃ own, ∀ anyCase rest, scan anyCase (char :: rest) = own ++ scan anyCase rest := by
  cases blank : isBlank char with
  | true => exact ⟨[], fun _ _ => scan_blank blank⟩
  | false =>
      by_cases isOpen : char = '('
      · exact ⟨[.openParen], fun _ _ => by rw [isOpen, scan_openParen, List.singleton_append]⟩
      by_cases isClose : char = ')'
      · exact ⟨[.closeParen], fun _ _ => by rw [isClose, scan_closeParen, List.singleton_append]⟩
      · simp [isRunChar, blank, isOpen, isClose] at ends

theorem scan_delimiter (ends : isRunChar char = false) :
    scan anyCase (char :: rest) = scan anyCase [char] ++ scan anyCase rest := by
  obtain ⟨own, scans⟩ := exists_scan_delimiter ends
  rw [scans anyCase rest, scans anyCase [], scan, List.append_nil]

theorem scan_singleton_delimiter (ends : isRunChar char = false) :
    scan true [char] = scan false [char] := by
  obtain ⟨own, scans⟩ := exists_scan_delimiter ends
  rw [scans true [], scans false [], scan, scan]

theorem scan_eq_flatMap_pieces (text : List Char) :
    scan anyCase text = (pieces text).flatMap (scan anyCase) := by
  induction text using runs_induction with
  | nil => simp [scan, pieces]
  | delimiter char rest ends ih =>
      rw [pieces_delimiter ends, List.flatMap_cons, scan_delimiter ends, ih]
  | run run rest isRun afresh ih =>
      rw [pieces_run_append isRun afresh, List.flatMap_cons, scan_append_of_startsAfresh afresh, ih]

/-! ## Recasing -/

/-- The keyword that a piece is once its letters are raised, and any other piece as it is. -/
def recasePiece (raise : Char → Char) (piece : List Char) : List Char :=
  match Operator.ofKeyword? (piece.map raise) with
  | some connective => connective.keyword.toList
  | none => piece

/-- The text with every run that is a keyword once its letters are raised as that keyword, and
everything else as it is. -/
def recase (raise : Char → Char) (text : List Char) : List Char :=
  (pieces text).flatMap (recasePiece raise)

def recased (raise : Char → Char) (text : String) : String :=
  String.ofList (recase raise text.toList)

theorem recasePiece_singleton (raise : Char → Char) (char : Char) :
    recasePiece raise [char] = [char] := by
  have noKeyword : Operator.ofKeyword? [raise char] = none := by
    rw [Option.eq_none_iff_forall_ne_some]
    intro operator isKeyword
    have lengths := congrArg List.length (Operator.ofKeyword?_eq_some_iff.mp isKeyword)
    cases operator <;> cases lengths
  rw [recasePiece, List.map_singleton, noKeyword]

theorem recase_delimiter (ends : isRunChar char = false) :
    recase raise (char :: rest) = char :: recase raise rest := by
  rw [recase, pieces_delimiter ends, List.flatMap_cons, recasePiece_singleton,
    List.singleton_append, recase]

theorem recase_run_append (isRun : IsRun run) (afresh : StartsAfresh rest) :
    recase raise (run ++ rest) = recasePiece raise run ++ recase raise rest := by
  rw [recase, pieces_run_append isRun afresh, List.flatMap_cons, recase]

theorem startsAfresh_recase (afresh : StartsAfresh rest) : StartsAfresh (recase raise rest) := by
  cases rest with
  | nil => exact afresh
  | cons char rest =>
      rw [recase_delimiter (afresh char rfl)]
      exact afresh

theorem scan_recase (text : List Char) :
    scan anyCase (recase raise text) =
      (pieces text).flatMap fun piece => scan anyCase (recasePiece raise piece) := by
  induction text using runs_induction with
  | nil => simp [scan, recase, pieces]
  | delimiter char rest ends ih =>
      rw [recase_delimiter ends, scan_delimiter ends, ih, pieces_delimiter ends,
        List.flatMap_cons, recasePiece_singleton]
  | run run rest isRun afresh ih =>
      rw [recase_run_append isRun afresh, scan_append_of_startsAfresh (startsAfresh_recase afresh),
        ih, pieces_run_append isRun afresh, List.flatMap_cons]

/-! ## Words -/

/-- The token of a run that is a keyword if it is one once its letters are raised. -/
def reading (raise : Char → Char) (run : List Char) : Token :=
  match Operator.ofKeyword? (run.map raise) with
  | some connective => .operator connective
  | none => .identifier (String.ofList run)

theorem keyword?_true (run : List Char) :
    keyword? true run = Operator.ofKeyword? (run.map capital) := by
  apply Option.ext
  intro operator
  rw [keyword?, if_pos rfl, Operator.ofKeyword?_eq_some_iff, Operator.ofKeyword?_eq_some_iff,
    upper_eq_keyword_iff]

theorem scan_true_run (isRun : IsRun run) : scan true run = [reading capital run] := by
  rw [scan_eq_ofRun isRun.1 isRun.2, ofRun, keyword?_true]
  rfl

/-- Raising leaves the keywords as they are. -/
def KeepsKeywords (raise : Char → Char) : Prop :=
  ∀ operator : Operator, operator.keyword.toList.map raise = operator.keyword.toList

theorem scan_false_recasePiece (keeps : KeepsKeywords raise) (isRun : IsRun run) :
    scan false (recasePiece raise run) = [reading raise run] := by
  cases raised : Operator.ofKeyword? (run.map raise) with
  | some operator =>
      have spellable : IsSpellable false (.operator operator) := trivial
      have spelled : scan false operator.keyword.toList = [.operator operator] :=
        scan_spelling spellable
      simp [recasePiece, reading, raised, spelled]
  | none =>
      have noKeyword : keyword? false run = none := by
        rw [keyword?_eq_none_iff]
        intro operator isKeyword
        rw [if_neg Bool.false_ne_true] at isKeyword
        rw [isKeyword, keeps operator, Operator.ofKeyword?_eq_some_iff.mpr rfl] at raised
        cases raised
      simp [recasePiece, reading, raised, scan_eq_ofRun isRun.1 isRun.2, ofRun, noKeyword]

theorem keepsKeywords_capital : KeepsKeywords capital := by
  intro operator
  cases operator <;> decide

theorem keepsKeywords_toUpper : KeepsKeywords Char.toUpper := by
  intro operator
  cases operator <;> decide

/-- The keyword of exceptions in some casing, written with the dotless i. -/
def IsDotlessKeyword (run : List Char) : Prop :=
  dotlessI ∈ run ∧ run.map capital = Operator.exception.keyword.toList

instance : DecidablePred IsDotlessKeyword := fun run =>
  inferInstanceAs (Decidable (dotlessI ∈ run ∧ run.map capital = Operator.exception.keyword.toList))

theorem map_capital_of_not_mem (undotted : dotlessI ∉ run) :
    run.map capital = run.map Char.toUpper := by
  apply List.map_congr_left
  intro char member
  rw [capital, if_neg]
  rintro rfl
  exact undotted member

theorem reading_capital_eq_iff :
    reading capital run = reading Char.toUpper run ↔ ¬IsDotlessKeyword run := by
  by_cases dotless : dotlessI ∈ run
  case neg =>
    have same : reading capital run = reading Char.toUpper run := by
      rw [reading, reading, map_capital_of_not_mem dotless]
    exact ⟨fun _ isKeyword => dotless isKeyword.1, fun _ => same⟩
  case pos =>
    have stays : dotlessI ∈ run.map Char.toUpper := List.mem_map.mpr ⟨_, dotless, by decide⟩
    have raised : 'I' ∈ run.map capital := List.mem_map.mpr ⟨_, dotless, by decide⟩
    have noKeyword : Operator.ofKeyword? (run.map Char.toUpper) = none := by
      rw [Option.eq_none_iff_forall_ne_some]
      intro operator isKeyword
      rw [Operator.ofKeyword?_eq_some_iff.mp isKeyword] at stays
      revert stays
      cases operator <;> decide
    rw [IsDotlessKeyword, and_iff_right dotless, ← Operator.ofKeyword?_eq_some_iff]
    cases keyword : Operator.ofKeyword? (run.map capital) with
    | none => simp [reading, keyword, noKeyword]
    | some operator =>
        rw [Operator.ofKeyword?_eq_some_iff.mp keyword] at raised
        have isException : operator = .exception := by
          revert raised
          cases operator <;> decide
        simp [reading, keyword, noKeyword, isException]

/-! ## Texts -/

theorem flatMap_eq_flatMap_iff {First : Type} {tokens others : First → List Token}
    {items : List First} (lengths : ∀ item ∈ items, (tokens item).length = (others item).length) :
    items.flatMap tokens = items.flatMap others ↔ ∀ item ∈ items, tokens item = others item := by
  induction items with
  | nil => simp
  | cons item items ih =>
      obtain ⟨first, later⟩ := List.forall_mem_cons.mp lengths
      rw [List.flatMap_cons, List.flatMap_cons, List.append_eq_append_iff_of_size_eq_left first,
        ih later, List.forall_mem_cons]

theorem scan_piece_eq_iff (member : piece ∈ pieces text) :
    scan true piece = scan false (recasePiece Char.toUpper piece) ↔ ¬IsDotlessKeyword piece := by
  rcases mem_pieces member with isRun | ⟨char, rfl, ends⟩
  · rw [scan_true_run isRun, scan_false_recasePiece keepsKeywords_toUpper isRun,
      List.singleton_inj, reading_capital_eq_iff]
  · have tooShort : ¬IsDotlessKeyword [char] := by
      rintro ⟨-, isKeyword⟩
      cases congrArg List.length isKeyword
    rw [recasePiece_singleton, iff_true_right tooShort, scan_singleton_delimiter ends]

theorem scan_piece_capital (member : piece ∈ pieces text) :
    scan true piece = scan false (recasePiece capital piece) := by
  rcases mem_pieces member with isRun | ⟨char, rfl, ends⟩
  · rw [scan_true_run isRun, scan_false_recasePiece keepsKeywords_capital isRun]
  · rw [recasePiece_singleton, scan_singleton_delimiter ends]

/-- A piece is as many tokens whatever keywords there are in it. -/
theorem length_scan_piece (keeps : KeepsKeywords raise) (member : piece ∈ pieces text) :
    (scan true piece).length = (scan false (recasePiece raise piece)).length := by
  rcases mem_pieces member with isRun | ⟨char, rfl, ends⟩
  · rw [scan_true_run isRun, scan_false_recasePiece keeps isRun]
    rfl
  · rw [recasePiece_singleton, scan_singleton_delimiter ends]

theorem scan_true_eq_recase_capital (text : List Char) :
    scan true text = scan false (recase capital text) := by
  rw [scan_eq_flatMap_pieces, scan_recase]
  exact List.flatMap_congr fun piece member => scan_piece_capital member

theorem scan_true_eq_recase_iff (text : List Char) :
    scan true text = scan false (recase Char.toUpper text) ↔
      ∀ piece ∈ pieces text, ¬IsDotlessKeyword piece := by
  rw [scan_eq_flatMap_pieces, scan_recase,
    flatMap_eq_flatMap_iff fun piece member => length_scan_piece keepsKeywords_toUpper member]
  exact forall₂_congr fun piece member => scan_piece_eq_iff member

end Token

/-! ## Main results -/

open Token

theorem parse_eq_of_tokenize_eq {anyCase otherCase : Bool} {text other : String}
    (same : tokenize anyCase text = tokenize otherCase other) (maxDepth : Int) :
    parse ⟨maxDepth, anyCase⟩ text = parse ⟨maxDepth, otherCase⟩ other := by
  simp only [parse, parse?, same]

/-- To accept keywords in any case is to put them in upper case first, where the dotless i counts
as an i.  For the casings of the twenty-six letters alone the same is true of just those texts in
which no run is the keyword of exceptions with a dotless i. -/
theorem anyCase_recases_keywords (text : String) :
    (tokenize true text = tokenize false (recased Text.capital text) ∧
      ∀ maxDepth, parse ⟨maxDepth, true⟩ text =
        parse ⟨maxDepth, false⟩ (recased Text.capital text)) ∧
    (tokenize true text = tokenize false (recased Char.toUpper text) ↔
      ∀ piece ∈ pieces text.toList, ¬IsDotlessKeyword piece) ∧
    ((∀ piece ∈ pieces text.toList, ¬IsDotlessKeyword piece) → ∀ maxDepth,
      parse ⟨maxDepth, true⟩ text = parse ⟨maxDepth, false⟩ (recased Char.toUpper text)) := by
  have tokens : tokenize true text = tokenize false (recased Text.capital text) := by
    rw [tokenize, tokenize, recased, String.toList_ofList, scan_true_eq_recase_capital]
  have tokensIff : tokenize true text = tokenize false (recased Char.toUpper text) ↔
      ∀ piece ∈ pieces text.toList, ¬IsDotlessKeyword piece := by
    rw [tokenize, tokenize, recased, String.toList_ofList, scan_true_eq_recase_iff]
  refine ⟨⟨tokens, parse_eq_of_tokenize_eq tokens⟩, tokensIff, fun undotted => ?_⟩
  exact parse_eq_of_tokenize_eq (tokensIff.mpr undotted)

/-- Identifiers keep their case. -/
theorem anyCase_recases_mixed_keywords :
    (∀ piece ∈ pieces "(or1 Or b)wiTh and2".toList, ¬IsDotlessKeyword piece) ∧
    recased Char.toUpper "(or1 Or b)wiTh and2" = "(or1 OR b)WITH and2" ∧
    parse ⟨1, true⟩ "(or1 Or b)wiTh and2" =
      parse ⟨1, false⟩ (recased Char.toUpper "(or1 Or b)wiTh and2") := by
  have undotted : ∀ piece ∈ pieces "(or1 Or b)wiTh and2".toList, ¬IsDotlessKeyword piece := by
    decide
  exact ⟨undotted, by decide, (anyCase_recases_keywords _).2.2 undotted 1⟩

/-- The dotless i makes a keyword of a word that is none in any casing. -/
theorem dotless_keyword_accepted :
    tokenize true "w\u0131th" = [.operator .exception] ∧
    recased Char.toUpper "w\u0131th" = "w\u0131th" ∧
    tokenize false "w\u0131th" = [.identifier "w\u0131th"] ∧
    ¬∀ text, tokenize true text = tokenize false (recased Char.toUpper text) := by
  have accepted : tokenize true "w\u0131th" = [.operator .exception] := by decide +kernel
  have kept : recased Char.toUpper "w\u0131th" = "w\u0131th" := by decide
  have word : tokenize false "w\u0131th" = [.identifier "w\u0131th"] := by
    decide +kernel
  refine ⟨accepted, kept, word, fun always => ?_⟩
  have same := always "w\u0131th"
  rw [accepted, kept, word] at same
  cases same

end LicenseExpr
