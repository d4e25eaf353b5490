/-!
# Sets of strings in code point order

Strings are compared by their code points, first difference first, and a set
of them is listed in ascending order without repetition.
-/

namespace LicenseExpr.Text

/-- The list with the string put at its place, unless it is there already. -/
def insertDistinct (text : String) : List String → List String
  | [] => [text]
  | first :: rest =>
      if text < first then text :: first :: rest
      else if text = first then first :: rest
      else first :: insertDistinct text rest

/-- The strings of a list, each once, in ascending code point order. -/
def sortedDistinct (texts : List String) : List String :=
  texts.foldr insertDistinct []

@[simp] theorem mem_insertDistinct {text other : String} {texts : List String} :
    other ∈ insertDistinct text texts ↔ other = text ∨ other ∈ texts := by
  induction texts with
  | nil => simp [insertDistinct]
  | cons first rest ih =>
      by_cases less : text < first
      · simp [insertDistinct, less]
      by_cases same : text = first
      · simp [insertDistinct, same]
      · simp only [insertDistinct, less, same, if_false, List.mem_cons, ih]
        exact or_left_comm

@[simp] theorem mem_sortedDistinct {text : String} {texts : List String} :
    text ∈ sortedDistinct texts ↔ text ∈ texts := by
  induction texts with
  | nil => simp [sortedDistinct]
  | cons first rest ih =>
      rw [sortedDistinct] at ih
      simp [sortedDistinct, ih]

theorem pairwise_insertDistinct {text : String} {texts : List String}
    (ascending : texts.Pairwise (· < ·)) : (insertDistinct text texts).Pairwise (· < ·) := by
  induction texts with
  | nil => simp [insertDistinct]
  | cons first rest ih =>
      obtain ⟨firstLess, restAscending⟩ := List.pairwise_cons.mp ascending
      rw [insertDistinct]
      split
      case isTrue less =>
        refine List.pairwise_cons.mpr ⟨?_, ascending⟩
        intro later member
        rcases List.mem_cons.mp member with rfl | member
        · exact less
        · exact String.lt_trans less (firstLess later member)
      split
      case isFalse.isTrue => exact ascending
      case isFalse.isFalse notLess notSame =>
        have greater : first < text := by
          by_cases greater : first < text
          · exact greater
          · have same := String.le_antisymm (String.not_lt.mp greater) (String.not_lt.mp notLess)
            exact absurd same notSame
        refine List.pairwise_cons.mpr ⟨?_, ih restAscending⟩
        intro later member
        rcases mem_insertDistinct.mp member with rfl | member
        · exact greater
        · exact firstLess later member

/-- No string is listed twice, and each is less than those after it. -/
theorem pairwise_sortedDistinct (texts : List String) :
    (sortedDistinct texts).Pairwise (· < ·) := by
  induction texts with
  | nil => exact List.Pairwise.nil
  | cons first rest ih => exact pairwise_insertDistinct ih

end LicenseExpr.Text
