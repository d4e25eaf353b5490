import LicenseExpr.Json.Printer
import LicenseExpr.Json.Reader
import LicenseExpr.Proofs.Text.Digits
import LicenseExpr.Proofs.Text.Terminal

/-!
# JSON strings read back

Where characters beyond ASCII stand as they are, each character of a string is
either written as itself or as one escape.  So a string is read character by
character as it was written, up to its closing quote.  No character below the
space is left as it is, so nothing in a string moves the cursor of a terminal.
-/

namespace LicenseExpr.Json

open LicenseExpr.Text

variable {style : Style} {char : Char}

theorem hexNumber?_unit {unit : Nat} (fits : unit < 0x10000) :
    ∃ a b c d, hexDigits 4 unit = [a, b, c, d] ∧ hexNumber? [a, b, c, d] = some unit := by
  have reads : hexNumber? (hexDigits 4 unit) = some unit := hexNumber?_hexDigits fits
  match digitsEq : hexDigits 4 unit, length_hexDigits 4 unit with
  | [a, b, c, d], _ =>
      rw [digitsEq] at reads
      exact ⟨a, b, c, d, rfl, reads⟩

/-- The escape of a single unit that is no surrogate is read as its character. -/
theorem stringBody_unitEscape_append (low : char.toNat < 0xD800) (rest : List Char) :
    stringBody (unitEscape char.toNat ++ rest) =
      (stringBody rest).map fun body => (char :: body.1, body.2) := by
  have fits : char.toNat < 0x10000 := by omega
  obtain ⟨a, b, c, d, digitsEq, reads⟩ := hexNumber?_unit fits
  rw [unitEscape, digitsEq]
  simp only [List.cons_append, List.nil_append, stringBody, reads, Option.bind_eq_bind,
    Option.bind_some, low, true_or, if_true, Char.ofNat_toNat]
  cases stringBody rest <;> rfl

theorem stringBody_plain_append (notQuote : char ≠ '"') (notBackslash : char ≠ '\\')
    (high : ¬ char.toNat < 0x20) (rest : List Char) :
    stringBody (char :: rest) = (stringBody rest).map fun body => (char :: body.1, body.2) := by
  rw [stringBody, if_neg high]
  · cases stringBody rest <;> rfl
  all_goals intros; contradiction

/-- A character is read as it was written. -/
theorem stringBody_stringChar_append (verbatim : style.asciiOnly = false) (char : Char)
    (rest : List Char) :
    stringBody (stringChar style char ++ rest) =
      (stringBody rest).map fun body => (char :: body.1, body.2) := by
  have short (mark : Char) (notUnit : mark ≠ 'u') (escapes : shortEscape? mark = some char) :
      stringBody ('\\' :: mark :: rest) =
        (stringBody rest).map fun body => (char :: body.1, body.2) := by
    rw [stringBody, escapes]
    · cases stringBody rest <;> rfl
    · intros; contradiction
  unfold stringChar
  split
  case isTrue quote => exact short '"' (by decide) (by rw [quote]; decide)
  split
  case isTrue backslash => exact short '\\' (by decide) (by rw [backslash]; decide)
  split
  case isTrue lineFeed => exact short 'n' (by decide) (by rw [lineFeed]; decide)
  split
  case isTrue carriageReturn => exact short 'r' (by decide) (by rw [carriageReturn]; decide)
  split
  case isTrue tab => exact short 't' (by decide) (by rw [tab]; decide)
  split
  case isTrue backspace => exact short 'b' (by decide) (by rw [backspace]; decide)
  split
  case isTrue formFeed => exact short 'f' (by decide) (by rw [formFeed]; decide)
  split
  case isTrue low => exact stringBody_unitEscape_append (by omega) rest
  case isFalse notQuote notBackslash _ _ _ _ _ high =>
    rw [verbatim, Bool.false_and, if_neg Bool.false_ne_true]
    exact stringBody_plain_append notQuote notBackslash high rest

/-- What follows a written string is what is left after reading it. -/
theorem stringBody_append (verbatim : style.asciiOnly = false) (text rest : List Char) :
    stringBody (text.flatMap (stringChar style) ++ '"' :: rest) = some (text, rest) := by
  induction text with
  | nil => rw [List.flatMap_nil, List.nil_append, stringBody]
  | cons char text ih =>
      rw [List.flatMap_cons, List.append_assoc, stringBody_stringChar_append verbatim, ih,
        Option.map_some]

/-! ## No control characters -/

theorem isStill_hexDigits (width value : Nat) : IsStill (hexDigits width value) :=
  forall_mem_hexDigits width value (by decide)

theorem isStill_unitEscape (unit : Nat) : IsStill (unitEscape unit) := by
  have marks : movesCursor '\\' = false ∧ movesCursor 'u' = false := by decide
  simp [unitEscape, marks, isStill_hexDigits]

theorem isStill_stringChar (char : Char) : IsStill (stringChar style char) := by
  unfold stringChar
  iterate 7
    split
    · decide
  split
  case isTrue low => exact isStill_unitEscape _
  case isFalse high =>
    split
    · rw [codeUnits]
      split
      · exact isStill_unitEscape _
      · exact isStill_append.mpr ⟨isStill_unitEscape _, isStill_unitEscape _⟩
    · simp only [isStill_cons, isStill_nil, and_true, movesCursor, Bool.or_eq_false_iff,
        beq_eq_false_iff_ne]
      omega

theorem isStill_stringText (text : String) : IsStill (stringText style text) := by
  have characters : IsStill (text.toList.flatMap (stringChar style)) := by
    intro char member
    obtain ⟨source, -, inSource⟩ := List.mem_flatMap.mp member
    exact isStill_stringChar source char inSource
  have quote : movesCursor '"' = false := by decide
  simp [stringText, quote, characters]

end LicenseExpr.Json
