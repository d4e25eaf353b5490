import LicenseExpr.Proofs.Text.Digits
import LicenseExpr.Proofs.Text.Terminal
import LicenseExpr.Text.Quoted

/-!
# Text in printable characters

From the space to the tilde all characters of ASCII are printable, so numbers,
escapes and the fixed words of messages are.  A quoted text is printable
whatever it quotes, for what is not printable is escaped.  The only blank that
is printable is the space; a printable text stays on one line.
-/

namespace LicenseExpr.Text

variable {mark char : Char} {text first second : List Char}

/-- A text of printable characters. -/
def IsLegible (text : List Char) : Prop :=
  ∀ char ∈ text, isPrintable char = true

@[simp] theorem isLegible_nil : IsLegible [] := by
  simp [IsLegible]

@[simp] theorem isLegible_cons :
    IsLegible (char :: text) ↔ isPrintable char = true ∧ IsLegible text :=
  List.forall_mem_cons

@[simp] theorem isLegible_append :
    IsLegible (first ++ second) ↔ IsLegible first ∧ IsLegible second :=
  List.forall_mem_append

theorem IsLegible.toList_append {first second : String} (firstLegible : IsLegible first.toList)
    (secondLegible : IsLegible second.toList) : IsLegible (first ++ second).toList := by
  rw [String.toList_append]
  exact isLegible_append.mpr ⟨firstLegible, secondLegible⟩

theorem isPrintable_of_ascii (atLeast : 0x20 ≤ char.toNat) (atMost : char.toNat ≤ 0x7E) :
    isPrintable char = true := by
  have outside : ∀ range ∈ unprintableRanges, range.2 < 0x20 ∨ 0x7E < range.1 := by
    decide +kernel
  rw [isPrintable, Bool.not_eq_true', Bool.eq_false_iff]
  intro inside
  obtain ⟨range, member, lower, upper⟩ := (CodeRanges.has_iff _ _).mp inside
  rcases outside range member with below | above <;> omega

theorem isLegible_of_ascii
    (ascii : text.all (fun char => 0x20 ≤ char.toNat ∧ char.toNat ≤ 0x7E) = true) :
    IsLegible text := by
  intro char member
  have bounds := List.all_eq_true.mp ascii char member
  obtain ⟨atLeast, atMost⟩ := of_decide_eq_true bounds
  exact isPrintable_of_ascii atLeast atMost

/-- A text that is written out in a program is such a list of characters by definition. -/
theorem isLegible_ofList_of_ascii
    (ascii : text.all (fun char => 0x20 ≤ char.toNat ∧ char.toNat ≤ 0x7E) = true) :
    IsLegible (String.ofList text).toList := by
  rw [String.toList_ofList]
  exact isLegible_of_ascii ascii

/-- Of the blanks only the space is printable. -/
theorem eq_space_of_isPrintable (printable : isPrintable char = true)
    (blank : isBlank char = true) : char = ' ' := by
  have covered : ∀ range ∈ blankRanges, range = (0x1C, 0x20) ∨
      ∃ other ∈ unprintableRanges, other.1 ≤ range.1 ∧ range.2 ≤ other.2 := by
    decide +kernel
  have outside : ∀ other ∈ unprintableRanges, ¬(other.1 ≤ char.toNat ∧ char.toNat ≤ other.2) := by
    intro other member inside
    have unprintable := (CodeRanges.has_iff _ _).mpr ⟨other, member, inside⟩
    rw [isPrintable, unprintable] at printable
    cases printable
  obtain ⟨range, member, lower, upper⟩ := (CodeRanges.has_iff _ _).mp blank
  rcases covered range member with rfl | ⟨other, otherMember, lowerLe, upperLe⟩
  · have atMost : char.toNat ≤ 0x20 := upper
    have notControl : ¬(0 ≤ char.toNat ∧ char.toNat ≤ 0x1F) := outside (0, 0x1F) (by decide)
    have isSpace : char.toNat = 0x20 := by omega
    exact Char.toNat_inj.mp isSpace
  · exact absurd ⟨Nat.le_trans lowerLe lower, Nat.le_trans upper upperLe⟩
      (outside other otherMember)

theorem IsLegible.isSpaced (legible : IsLegible text) : IsSpaced text :=
  fun char member => eq_space_of_isPrintable (legible char member)

/-! ## Numbers -/

theorem isLegible_decimal (number : Nat) : IsLegible (decimal number) := by
  have digits : ∀ digit < 10, 0x20 ≤ (digitChar digit).toNat ∧ (digitChar digit).toNat ≤ 0x7E := by
    decide
  rw [decimal_eq_map]
  intro char member
  obtain ⟨digit, digitMember, rfl⟩ := List.mem_map.mp member
  obtain ⟨atLeast, atMost⟩ := digits digit (lt_ten_of_mem_decimalDigits digitMember)
  exact isPrintable_of_ascii atLeast atMost

theorem isLegible_integerText (number : Int) : IsLegible (integerText number).toList := by
  rw [integerText, String.toList_ofList]
  cases number with
  | ofNat number => exact isLegible_decimal number
  | negSucc number =>
      exact isLegible_cons.mpr ⟨isPrintable_of_ascii (by decide) (by decide),
        isLegible_decimal (number + 1)⟩

theorem isLegible_hexDigits (width value : Nat) : IsLegible (hexDigits width value) := by
  have digits : ∀ digit < 16, 0x20 ≤ (hexDigit digit).toNat ∧ (hexDigit digit).toNat ≤ 0x7E := by
    decide
  apply forall_mem_hexDigits
  intro digit small
  obtain ⟨atLeast, atMost⟩ := digits digit small
  exact isPrintable_of_ascii atLeast atMost

/-! ## Quoted text -/

theorem isLegible_codeEscape (char : Char) : IsLegible (codeEscape char) := by
  have letter {letter : Char} (ascii : 0x20 ≤ letter.toNat ∧ letter.toNat ≤ 0x7E) (width : Nat) :
      IsLegible ('\\' :: letter :: hexDigits width char.toNat) :=
    isLegible_cons.mpr ⟨isPrintable_of_ascii (by decide) (by decide),
      isLegible_cons.mpr ⟨isPrintable_of_ascii ascii.1 ascii.2, isLegible_hexDigits _ _⟩⟩
  unfold codeEscape
  split
  · exact letter (by decide) 2
  split
  · exact letter (by decide) 4
  · exact letter (by decide) 8

theorem isPrintable_of_isMark (isMark : mark = '"' ∨ mark = '\'') : isPrintable mark = true := by
  rcases isMark with rfl | rfl <;> exact isPrintable_of_ascii (by decide) (by decide)

theorem isLegible_quotedChar (isMark : mark = '"' ∨ mark = '\'') (char : Char) :
    IsLegible (quotedChar mark char) := by
  have backslash : isPrintable '\\' = true := isPrintable_of_ascii (by decide) (by decide)
  unfold quotedChar
  split
  case isTrue escaped =>
    have printable : isPrintable char = true := by
      rcases escaped with rfl | rfl
      · exact isPrintable_of_isMark isMark
      · exact backslash
    exact isLegible_cons.mpr ⟨backslash, isLegible_cons.mpr ⟨printable, isLegible_nil⟩⟩
  split
  · exact isLegible_of_ascii (by decide)
  split
  · exact isLegible_of_ascii (by decide)
  split
  · exact isLegible_of_ascii (by decide)
  split
  case isTrue printable => simpa using printable
  case isFalse => exact isLegible_codeEscape char

/-- A quoted text is printable, whatever it quotes. -/
theorem isLegible_quoted (text : List Char) : IsLegible (quoted text) := by
  have isMark := eq_or_of_quoteMark_eq (rfl : quoteMark text = _)
  rw [quoted, List.cons_append, isLegible_cons, isLegible_append, isLegible_cons]
  refine ⟨isPrintable_of_isMark isMark, ?_, isPrintable_of_isMark isMark, isLegible_nil⟩
  intro char member
  obtain ⟨original, -, inQuoted⟩ := List.mem_flatMap.mp member
  exact isLegible_quotedChar isMark original char inQuoted

theorem isLegible_quote (text : String) : IsLegible (quote text).toList := by
  rw [quote, String.toList_ofList]
  exact isLegible_quoted text.toList

end LicenseExpr.Text
