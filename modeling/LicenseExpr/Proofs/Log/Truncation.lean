import Mathlib.Data.List.Basic
import Mathlib.Data.List.Forall2
import LicenseExpr.Log.Record
import LicenseExpr.Proofs.Text.Digits

/-!
# Truncated values read back

A text that was cut is shown with a mark behind it and is longer than any text
that was not, so its length alone tells a reader which of the two it is, even
if a text ends in the like of a mark.  The digits of the mark are the only ones
behind the limit, and from them the original length is read.  So two texts are
shown alike only if they are equal, or if both were cut, are equally long and
begin alike.
-/

namespace LicenseExpr.Log

open LicenseExpr.Text

variable {text other : List Char}

/-! ## Cut texts -/

theorem truncated_of_short (short : text.length ≤ lengthLimit) : truncated text = text :=
  if_pos short

theorem truncated_of_long (long : lengthLimit < text.length) :
    truncated text = text.take lengthLimit ++ cutMark (text.length - lengthLimit) :=
  if_neg (Nat.not_le.mpr long)

theorem take_truncated (text : List Char) :
    (truncated text).take lengthLimit = text.take lengthLimit := by
  rcases Nat.lt_or_ge lengthLimit text.length with long | short
  · rw [truncated_of_long long, List.take_left']
    exact List.length_take_of_le (Nat.le_of_lt long)
  · rw [truncated_of_short short]

theorem drop_truncated (long : lengthLimit < text.length) :
    (truncated text).drop lengthLimit = cutMark (text.length - lengthLimit) := by
  rw [truncated_of_long long, List.drop_left']
  exact List.length_take_of_le (Nat.le_of_lt long)

theorem cutMark_ne_nil (dropped : Nat) : cutMark dropped ≠ [] :=
  List.append_ne_nil_of_right_ne_nil _ (by decide)

/-- What is shown is within the limit exactly if nothing was cut. -/
theorem length_truncated_le_iff :
    (truncated text).length ≤ lengthLimit ↔ text.length ≤ lengthLimit := by
  constructor
  · intro within
    by_contra long
    have mark := drop_truncated (Nat.lt_of_not_le long)
    rw [List.drop_eq_nil_of_le within] at mark
    exact cutMark_ne_nil _ mark.symm
  · intro short
    rwa [truncated_of_short short]

/-! ## Reading the mark -/

/-- Nothing of a mark is a digit but the number of missing characters. -/
theorem filterMap_digitValue?_cutMark (dropped : Nat) :
    (cutMark dropped).filterMap digitValue? = decimalDigits dropped := by
  have before : "...[+".toList.filterMap digitValue? = [] := by decide
  have behind : " chars]".toList.filterMap digitValue? = [] := by decide
  have number : (decimal dropped).filterMap digitValue? = decimalDigits dropped := by
    rw [decimal_eq_map, List.filterMap_map]
    calc
      (decimalDigits dropped).filterMap (digitValue? ∘ digitChar) =
          (decimalDigits dropped).filterMap some :=
        List.filterMap_congr fun digit member =>
          digitValue?_digitChar (lt_ten_of_mem_decimalDigits member)
      _ = decimalDigits dropped := List.filterMap_some
  delta cutMark
  rw [List.filterMap_append, List.filterMap_append, before, behind, number, List.nil_append,
    List.append_nil]

/-- The length of a text before it was cut, read from what is shown of it. -/
def originalLength (shown : List Char) : Nat :=
  if shown.length ≤ lengthLimit then shown.length
  else lengthLimit + ofDigits ((shown.drop lengthLimit).filterMap digitValue?)

theorem originalLength_truncated (text : List Char) :
    originalLength (truncated text) = text.length := by
  rw [originalLength]
  split
  case isTrue within => rw [truncated_of_short (length_truncated_le_iff.mp within)]
  case isFalse beyond =>
    have long := Nat.lt_of_not_le (mt length_truncated_le_iff.mpr beyond)
    rw [drop_truncated long, filterMap_digitValue?_cutMark, ofDigits_decimalDigits,
      Nat.add_sub_cancel' (Nat.le_of_lt long)]

theorem truncated_eq_iff :
    truncated text = truncated other ↔
      text = other ∨ (lengthLimit < text.length ∧ lengthLimit < other.length ∧
        text.length = other.length ∧ text.take lengthLimit = other.take lengthLimit) := by
  constructor
  · intro same
    have sameLength : text.length = other.length := by
      rw [← originalLength_truncated text, same, originalLength_truncated]
    have sameFront : text.take lengthLimit = other.take lengthLimit := by
      rw [← take_truncated text, same, take_truncated]
    rcases Nat.lt_or_ge lengthLimit text.length with long | short
    · exact .inr ⟨long, sameLength ▸ long, sameLength, sameFront⟩
    · rw [truncated_of_short short, truncated_of_short (sameLength ▸ short)] at same
      exact .inl same
  · rintro (rfl | ⟨long, otherLong, sameLength, sameFront⟩)
    · rfl
    · rw [truncated_of_long long, truncated_of_long otherLong, sameLength, sameFront]

/-! ## Fields -/

/-- A field as it is given, and as it is shown where long texts are cut. -/
structure IsShownAs (given shown : String × Json) : Prop where
  name_eq : shown.1 = given.1
  event_eq : given.1 = "event" → shown.2 = given.2
  other_eq : (∀ text, given.2 ≠ .text text) → shown.2 = given.2
  short_eq : ∀ text, given.2 = .text text → text.length ≤ 200 → shown.2 = given.2
  long_eq : ∀ text, given.1 ≠ "event" → given.2 = .text text → 200 < text.length →
    shown.2 = .text (String.ofList (text.toList.take 200) ++ "...[+" ++
      integerText (text.length - 200 : Nat) ++ " chars]")

theorem isShownAs_truncate (field : String × Json) :
    IsShownAs field (if field.1 = eventKey then field else (field.1, truncatedValue field.2)) := by
  obtain ⟨name, value⟩ := field
  by_cases isEvent : name = eventKey
  · rw [if_pos isEvent]
    exact ⟨rfl, fun _ => rfl, fun _ => rfl, fun _ _ _ => rfl,
      fun _ notEvent => absurd isEvent notEvent⟩
  · rw [if_neg isEvent]
    constructor
    case name_eq => rfl
    case event_eq => exact fun event => absurd event isEvent
    case other_eq =>
      intro notText
      cases value with
      | text text => exact absurd rfl (notText text)
      | _ => rfl
    case short_eq =>
      rintro text rfl short
      have short : text.toList.length ≤ lengthLimit := by rwa [String.length_toList]
      rw [truncatedValue, truncated_of_short short, String.ofList_toList]
    case long_eq =>
      rintro text - rfl long
      have long : lengthLimit < text.toList.length := by rwa [String.length_toList]
      rw [truncatedValue, truncated_of_long long]
      delta cutMark
      simp only [String.ofList_append, String.length_toList, String.append_assoc,
        String.ofList_toList]
      rfl

/-- Where truncation is on, a record keeps its names in order, and of its values only long texts
other than the name of the event are changed: they are cut behind 200 characters, with a mark
that says how many are missing.  Whether a text was cut, and how long it was, can be told from
what is shown of it.  Two texts are shown alike exactly if they are equal, or if both were cut,
have the same length and share what is left. -/
theorem truncation_is_legible :
    (∀ (threshold : Option Level) (fields : Fields),
      List.Forall₂ IsShownAs fields ((Setup.mk threshold true).shorten fields)) ∧
    (∀ text, (truncated text).length ≤ 200 ↔ text.length ≤ 200) ∧
    (∀ text, originalLength (truncated text) = text.length) ∧
    ∀ text other, truncated text = truncated other ↔
      text = other ∨ (200 < text.length ∧ 200 < other.length ∧ text.length = other.length ∧
        text.take 200 = other.take 200) := by
  refine ⟨fun threshold fields => ?_, fun text => length_truncated_le_iff,
    originalLength_truncated, fun text other => truncated_eq_iff⟩
  rw [Setup.shorten, if_pos rfl, Fields.truncate, List.forall₂_map_right_iff, List.forall₂_same]
  exact fun field _ => isShownAs_truncate field

/-- A text may end in its own mark, so that nothing seems to be missing; it is too long not to have
been cut. -/
example :
    truncated (.replicate 200 'a' ++ cutMark 14) = .replicate 200 'a' ++ cutMark 14 ∧
      originalLength (truncated (.replicate 200 'a' ++ cutMark 14)) = 214 := by
  decide +kernel

end LicenseExpr.Log
