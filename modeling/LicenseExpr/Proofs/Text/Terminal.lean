import LicenseExpr.Text.Terminal
import LicenseExpr.Text.Whitespace

/-!
# Text that is printed as it is

A text without tabs is not expanded, and a text without the characters that
would move the cursor keeps all its characters.  Of those the tab and three
others are blanks, so that a text with no blanks but spaces only loses its
bells and backspaces.
-/

namespace LicenseExpr.Text

variable {char : Char} {text first second : List Char}

/-- A text without the characters that would move the cursor. -/
def IsStill (text : List Char) : Prop :=
  ∀ char ∈ text, movesCursor char = false

instance : Decidable (IsStill text) :=
  List.decidableBAll (movesCursor · = false) text

@[simp] theorem isStill_nil : IsStill [] := by
  simp [IsStill]

@[simp] theorem isStill_cons :
    IsStill (char :: text) ↔ movesCursor char = false ∧ IsStill text :=
  List.forall_mem_cons

@[simp] theorem isStill_append : IsStill (first ++ second) ↔ IsStill first ∧ IsStill second :=
  List.forall_mem_append

theorem withoutControls_eq_self (still : IsStill text) : withoutControls text = text := by
  rw [withoutControls, List.filter_eq_self]
  intro char member
  rw [still char member, Bool.not_false]

theorem expandTabs_eq_self (noTab : '\t' ∉ text) (cursor : Cursor) :
    expandTabs cursor text = text := by
  induction text generalizing cursor with
  | nil => rfl
  | cons char text ih =>
      obtain ⟨notTab, laterNoTab⟩ := not_or.mp (mt List.mem_cons.mpr noTab)
      rw [expandTabs, if_neg (Ne.symm notTab), ih laterNoTab, ih laterNoTab, ite_self]

/-- A text without tabs is printed as it is, but for the characters that would move the cursor. -/
theorem toList_printedLine {text : String} (noTab : '\t' ∉ withoutControls text.toList) :
    (printedLine text).toList = withoutControls text.toList ++ ['\n'] := by
  rw [printedLine, String.toList_ofList, expandTabs_eq_self noTab]

/-! ## Bells and backspaces -/

/-- Bell and backspace, which are no blanks. -/
def isSignal (char : Char) : Bool :=
  char == '\x07' || char == '\x08'

/-- The text without its bells and backspaces. -/
def withoutSignals (text : String) : String :=
  String.ofList (text.toList.filter (!isSignal ·))

/-- A text that has no other blanks than spaces. -/
def IsSpaced (text : List Char) : Prop :=
  ∀ char ∈ text, isBlank char = true → char = ' '

theorem movesCursor_eq_isSignal (spaced : isBlank char = true → char = ' ') :
    movesCursor char = isSignal char := by
  cases blank : isBlank char with
  | true =>
      rw [spaced blank]
      rfl
  | false =>
      have outside : ¬(9 ≤ char.toNat ∧ char.toNat ≤ 13) := by
        intro within
        have inRange : isBlank char = true :=
          (CodeRanges.has_iff _ _).mpr ⟨(9, 13), by decide, within⟩
        rw [blank] at inRange
        cases inRange
      have bell : char = '\x07' ↔ char.toNat = 7 := Char.toNat_inj.symm
      have backspace : char = '\x08' ↔ char.toNat = 8 := Char.toNat_inj.symm
      rw [Bool.eq_iff_iff]
      simp only [movesCursor, isSignal, Bool.or_eq_true, beq_iff_eq, bell, backspace]
      omega

theorem toList_withoutSignals {text : String} (spaced : IsSpaced text.toList) :
    (withoutSignals text).toList = withoutControls text.toList := by
  rw [withoutSignals, String.toList_ofList, withoutControls]
  apply List.filter_congr
  intro char member
  rw [movesCursor_eq_isSignal (spaced char member)]

theorem withoutSignals_eq_self_iff {text : String} :
    withoutSignals text = text ↔ ∀ char ∈ text.toList, isSignal char = false := by
  rw [← String.toList_inj, withoutSignals, String.toList_ofList, List.filter_eq_self]
  simp

/-- A text with no blanks but spaces is printed on one line, without its bells and backspaces. -/
theorem printedLine_of_isSpaced {text : String} (spaced : IsSpaced text.toList) :
    printedLine text = withoutSignals text ++ "\n" := by
  have noTab : '\t' ∉ withoutControls text.toList := fun member =>
    absurd (spaced '\t' (List.mem_filter.mp member).1 (by decide)) (by decide)
  rw [← String.toList_inj, toList_printedLine noTab, ← toList_withoutSignals spaced,
    String.toList_append]
  rfl

theorem lineFeed_not_mem_withoutSignals {text : String} (spaced : IsSpaced text.toList) :
    '\n' ∉ (withoutSignals text).toList := by
  rw [toList_withoutSignals spaced]
  exact fun member => absurd (spaced '\n' (List.mem_filter.mp member).1 (by decide)) (by decide)

end LicenseExpr.Text
