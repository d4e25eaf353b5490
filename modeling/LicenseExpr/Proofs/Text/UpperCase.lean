import Mathlib.Data.List.Basic
import LicenseExpr.Operator
import LicenseExpr.Text.UpperCase

/-!
# Words whose upper case is a keyword

Beyond ASCII there is one character whose upper case is a letter of a keyword,
the dotless i.  What any other character becomes, alone or with several more,
holds something that stands in no keyword.  So the upper case of a word is a
keyword exactly if the word is one letter by letter, where the two small
letters i count as one.
-/

namespace LicenseExpr.Text

/-- The small letter i without its dot. -/
def dotlessI : Char := '\u0131'

/-- The capital of an ASCII letter, and of the dotless i. -/
def capital (char : Char) : Char :=
  if char = dotlessI then 'I' else char.toUpper

def keywordLetters : List Char :=
  Operator.all.flatMap (·.keyword.toList)

variable {char : Char} {run : List Char} {operator : Operator}

theorem mem_keywordLetters (member : char ∈ operator.keyword.toList) : char ∈ keywordLetters :=
  List.mem_flatMap.mpr ⟨operator, Operator.mem_all operator, member⟩

theorem range_of_mem_keywordLetters :
    ∀ char ∈ keywordLetters, 65 ≤ char.toNat ∧ char.toNat ≤ 90 := by
  simp [keywordLetters, Operator.all, Operator.keyword]

-- A number that is no code point stands for the null character.
theorem ofNat_not_mem_keywordLetters {code : Nat} (large : 90 < code) :
    Char.ofNat code ∉ keywordLetters := by
  intro member
  have range := range_of_mem_keywordLetters _ member
  by_cases valid : code.isValidChar
  · have same : (Char.ofNat code).toNat = code := congrArg Char.toNat (dif_pos valid)
    omega
  · have null : Char.ofNat code = '\x00' := dif_neg valid
    rw [null] at range
    exact absurd range.1 (by decide)

/-! ## The tables -/

theorem upperOf_ofNat : ∀ code < 128, upperOf (Char.ofNat code) = [(Char.ofNat code).toUpper] := by
  decide +kernel

theorem upperOf_dotlessI : upperOf dotlessI = ['I'] := by
  decide +kernel

theorem exists_not_mem_expansion :
    ∀ entry ∈ upperExpansions, ∃ code ∈ entry.2, Char.ofNat code ∉ keywordLetters := by
  decide +kernel

/-- Of the runs beyond ASCII only those of the dotless i and of the long s lead back to it. -/
theorem run_cases : ∀ run ∈ upperRuns, run.last < 128 ∨ (run.first = 0x131 ∧ run.last = 0x131) ∨
    (run.first = 0x17F ∧ run.last = 0x17F ∧ run.offset = -300) ∨
    90 < (run.first : Int) + run.offset := by
  decide +kernel

/-! ## Characters -/

theorem upperOf_of_ascii (ascii : char.toNat < 128) : upperOf char = [char.toUpper] := by
  have ofCode := upperOf_ofNat char.toNat ascii
  rwa [Char.ofNat_toNat] at ofCode

theorem toUpper_of_beyond (beyond : 128 ≤ char.toNat) : char.toUpper = char := by
  refine dif_neg ?_
  rintro ⟨-, small⟩
  have code : char.toNat ≤ 122 := small
  omega

theorem not_mem_of_run {run : CaseRun} (isRun : run ∈ upperRuns)
    (has : run.has char.toNat = true) (beyond : 128 ≤ char.toNat) (notDotless : char ≠ dotlessI) :
    Char.ofNat ((char.toNat : Int) + run.offset).toNat ∉ keywordLetters := by
  have within : run.first ≤ char.toNat ∧ char.toNat ≤ run.last := by
    simp only [CaseRun.has, Bool.and_eq_true, decide_eq_true_eq] at has
    exact has.1
  rcases run_cases run isRun with ascii | ⟨first, last⟩ | ⟨first, last, offset⟩ | large
  · omega
  · have code : char.toNat = 0x131 := by omega
    refine absurd ?_ notDotless
    rw [← Char.ofNat_toNat char, code]
    rfl
  · have code : char.toNat = 0x17F := by omega
    rw [code, offset]
    decide
  · exact ofNat_not_mem_keywordLetters (by omega)

theorem exists_mem_upperOf (beyond : 128 ≤ char.toNat) (notDotless : char ≠ dotlessI) :
    ∃ other ∈ upperOf char, other ∉ keywordLetters := by
  rw [upperOf]
  split
  case h_1 codes expands =>
    obtain ⟨before, after, entries, -⟩ := List.lookup_eq_some_iff.mp expands
    have isEntry : (char.toNat, codes) ∈ upperExpansions := by simp [entries]
    obtain ⟨code, member, foreign⟩ := exists_not_mem_expansion _ isEntry
    exact ⟨Char.ofNat code, List.mem_map_of_mem member, foreign⟩
  case h_2 =>
    split
    case h_1 run found =>
      have has := List.find?_some found
      refine ⟨_, List.mem_singleton_self _, ?_⟩
      exact not_mem_of_run (List.mem_of_find?_eq_some found) has beyond notDotless
    case h_2 =>
      refine ⟨char, List.mem_singleton_self char, fun member => ?_⟩
      have range := range_of_mem_keywordLetters char member
      omega

theorem capital_of_ascii (ascii : char.toNat < 128) : capital char = char.toUpper := by
  rw [capital, if_neg]
  rintro rfl
  exact absurd ascii (by decide)

/-- A character whose capital is a letter of a keyword has just that as its upper case. -/
theorem upperOf_of_capital_mem (member : capital char ∈ keywordLetters) :
    upperOf char = [capital char] := by
  by_cases dotless : char = dotlessI
  · rw [dotless, upperOf_dotlessI]
    rfl
  by_cases ascii : char.toNat < 128
  · rw [upperOf_of_ascii ascii, capital_of_ascii ascii]
  · have beyond : 128 ≤ char.toNat := by omega
    rw [capital, if_neg dotless, toUpper_of_beyond beyond] at member
    have range := range_of_mem_keywordLetters char member
    omega

/-- What becomes nothing but letters of keywords becomes its capital. -/
theorem upperOf_of_forall_mem (letters : ∀ other ∈ upperOf char, other ∈ keywordLetters) :
    upperOf char = [capital char] := by
  by_cases dotless : char = dotlessI
  · rw [dotless, upperOf_dotlessI]
    rfl
  by_cases ascii : char.toNat < 128
  · rw [upperOf_of_ascii ascii, capital_of_ascii ascii]
  · obtain ⟨other, member, foreign⟩ := exists_mem_upperOf (by omega) dotless
    exact absurd (letters other member) foreign

/-! ## Words -/

theorem upper_eq_map_capital (each : ∀ char ∈ run, upperOf char = [capital char]) :
    upper run = run.map capital := by
  induction run with
  | nil => rfl
  | cons char run ih =>
      obtain ⟨first, later⟩ := List.forall_mem_cons.mp each
      rw [upper, List.flatMap_cons, first, ← upper, ih later, List.map_cons, List.singleton_append]

theorem upper_eq_keyword_iff :
    upper run = operator.keyword.toList ↔ run.map capital = operator.keyword.toList := by
  constructor
  · intro isKeyword
    rw [← upper_eq_map_capital, isKeyword]
    intro char member
    refine upperOf_of_forall_mem fun other inUpper => ?_
    have inKeyword : other ∈ operator.keyword.toList := by
      rw [← isKeyword]
      exact List.mem_flatMap.mpr ⟨char, member, inUpper⟩
    exact mem_keywordLetters inKeyword
  · intro isKeyword
    rw [upper_eq_map_capital, isKeyword]
    intro char member
    have inKeyword : capital char ∈ operator.keyword.toList := by
      rw [← isKeyword]
      exact List.mem_map_of_mem member
    exact upperOf_of_capital_mem (mem_keywordLetters inKeyword)

end LicenseExpr.Text
