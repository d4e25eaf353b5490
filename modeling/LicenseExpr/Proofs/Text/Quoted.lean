import LicenseExpr.Proofs.Text.Digits
import LicenseExpr.Text.Quoted

/-!
# Quoted text read back

Between its quotes a text is read back character by character, whatever stands
behind it.  The first quote tells the mark in use, and no character of the text
is written with the mark in front, so the next mark that stands where a
character is due closes the text.  Hence a quoted text determines the text.
-/

namespace LicenseExpr.Text

variable {mark char : Char} {text other rest otherRest : List Char}

/-- The character with a code point of `width` hexadecimal digits, and what is behind these. -/
def readCode (width : Nat) (rest : List Char) : Option (Char × List Char) :=
  (hexNumber? (rest.take width)).map fun code => (Char.ofNat code, rest.drop width)

/-- The character that is meant behind a backslash, and what is behind it. -/
def readEscape : List Char → Option (Char × List Char)
  | 'x' :: rest => readCode 2 rest
  | 'u' :: rest => readCode 4 rest
  | 'U' :: rest => readCode 8 rest
  | 'n' :: rest => some ('\n', rest)
  | 'r' :: rest => some ('\r', rest)
  | 't' :: rest => some ('\t', rest)
  | char :: rest => some (char, rest)
  | [] => none

/-- The first character of a text as it is written between quotes, and what is behind it. -/
def readQuotedChar : List Char → Option (Char × List Char)
  | [] => none
  | char :: rest => if char = '\\' then readEscape rest else some (char, rest)

theorem readCode_hexDigits_append {width : Nat} (fits : char.toNat < 16 ^ width) :
    readCode width (hexDigits width char.toNat ++ rest) = some (char, rest) := by
  have front : (hexDigits width char.toNat ++ rest).take width = hexDigits width char.toNat := by
    simp
  have behind : (hexDigits width char.toNat ++ rest).drop width = rest := by
    simp
  rw [readCode, front, behind, hexNumber?_hexDigits fits, Option.map_some, Char.ofNat_toNat]

theorem readQuotedChar_codeEscape_append :
    readQuotedChar (codeEscape char ++ rest) = some (char, rest) := by
  have bounded : char.toNat < 16 ^ 8 := char.val.toNat_lt
  unfold codeEscape
  split
  case isTrue small => exact readCode_hexDigits_append (by omega)
  split
  case isFalse.isTrue medium => exact readCode_hexDigits_append (by omega)
  case isFalse.isFalse large => exact readCode_hexDigits_append bounded

/-- A character is read back as it was quoted. -/
theorem readQuotedChar_quotedChar_append (isMark : mark = '"' ∨ mark = '\'') :
    readQuotedChar (quotedChar mark char ++ rest) = some (char, rest) := by
  unfold quotedChar
  split
  case isTrue escaped =>
    rcases escaped with rfl | rfl
    · rcases isMark with rfl | rfl <;> rfl
    · rfl
  split
  case isFalse.isTrue lineFeed => rw [lineFeed]; rfl
  split
  case isFalse.isFalse.isTrue carriageReturn => rw [carriageReturn]; rfl
  split
  case isFalse.isFalse.isFalse.isTrue tab => rw [tab]; rfl
  split
  case isTrue notEscaped _ _ _ printable =>
    exact if_neg fun isBackslash => notEscaped (.inr isBackslash)
  case isFalse => exact readQuotedChar_codeEscape_append

/-- No character is quoted with the mark in front. -/
theorem quotedChar_append_ne_mark (isMark : mark = '"' ∨ mark = '\'') :
    quotedChar mark char ++ rest ≠ mark :: otherRest := by
  intro same
  have notBackslash : mark ≠ '\\' := by
    rcases isMark with rfl | rfl <;> decide
  have read := congrArg readQuotedChar same
  rw [readQuotedChar_quotedChar_append isMark, readQuotedChar, if_neg notBackslash,
    Option.some.injEq, Prod.mk.injEq] at read
  -- Only the mark itself could be read as the mark, but that has a backslash in front.
  obtain ⟨rfl, -⟩ := read
  rw [quotedChar, if_pos (.inl rfl)] at same
  exact notBackslash (List.cons.inj same).1.symm

/-- In front of the closing mark what is quoted is determined, and so is what stands behind. -/
theorem flatMap_quotedChar_append_inj (isMark : mark = '"' ∨ mark = '\'')
    (same : text.flatMap (quotedChar mark) ++ mark :: rest =
      other.flatMap (quotedChar mark) ++ mark :: otherRest) :
    text = other ∧ rest = otherRest := by
  induction text generalizing other with
  | nil =>
      cases other with
      | nil => exact ⟨rfl, (List.cons.inj same).2⟩
      | cons otherChar other =>
          rw [List.flatMap_cons, List.append_assoc] at same
          exact absurd same.symm (quotedChar_append_ne_mark isMark)
  | cons char text ih =>
      cases other with
      | nil =>
          rw [List.flatMap_cons, List.append_assoc] at same
          exact absurd same (quotedChar_append_ne_mark isMark)
      | cons otherChar other =>
          rw [List.flatMap_cons, List.append_assoc, List.flatMap_cons, List.append_assoc] at same
          have read := congrArg readQuotedChar same
          rw [readQuotedChar_quotedChar_append isMark, readQuotedChar_quotedChar_append isMark,
            Option.some.injEq, Prod.mk.injEq] at read
          obtain ⟨rfl, behind⟩ := read
          obtain ⟨rfl, rfl⟩ := ih behind
          exact ⟨rfl, rfl⟩

/-- A quoted text in front of more determines the text and what stands behind it. -/
theorem quoted_append_inj (same : quoted text ++ rest = quoted other ++ otherRest) :
    text = other ∧ rest = otherRest := by
  simp only [quoted, List.cons_append, List.append_assoc, List.nil_append, List.cons.injEq]
    at same
  obtain ⟨sameMark, same⟩ := same
  rw [← sameMark] at same
  exact flatMap_quotedChar_append_inj (eq_or_of_quoteMark_eq rfl) same

end LicenseExpr.Text
