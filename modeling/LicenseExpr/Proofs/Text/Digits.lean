import Mathlib.Data.List.Induction
import Mathlib.Tactic.Ring
import LicenseExpr.Text.Hexadecimal
import LicenseExpr.Text.Numeral

/-!
# Numbers read back from their digits

What is written in hexadecimal digits of a given width, or as a decimal integer
with its sign, is read as the same number.  An integer can be read from its
text exactly if it may be written out at all, for both limits are the same; and
whatever integer is read may be written out.
-/

namespace LicenseExpr.Text

/-! ## Hexadecimal digits -/

theorem hexValue?_hexDigit {value : Nat} (small : value < 16) :
    hexValue? (hexDigit value) = some value := by
  revert value
  decide

theorem hexNumber?_hexDigits {width value : Nat} (fits : value < 16 ^ width) :
    hexNumber? (hexDigits width value) = some value := by
  induction width generalizing value with
  | zero =>
      have zero : value = 0 := by simpa using fits
      rw [zero]
      rfl
  | succ width ih =>
      have front : hexNumber? (hexDigits width (value / 16)) = some (value / 16) := by
        apply ih
        rw [pow_succ'] at fits
        exact Nat.div_lt_of_lt_mul fits
      have last := hexValue?_hexDigit (Nat.mod_lt value (by decide : 0 < 16))
      rw [hexNumber?] at front
      rw [hexDigits, hexNumber?, List.foldlM_append, front]
      simp [last, Nat.div_add_mod]

theorem mem_hexDigits {width value : Nat} {char : Char} (member : char ∈ hexDigits width value) :
    ∃ digit < 16, char = hexDigit digit := by
  induction width generalizing value with
  | zero => cases member
  | succ width ih =>
      rcases List.mem_append.mp member with front | last
      · exact ih front
      · exact ⟨_, Nat.mod_lt _ (by decide), List.mem_singleton.mp last⟩

/-- What holds of the sixteen digits holds throughout a number. -/
theorem forall_mem_hexDigits {property : Char → Prop} (width value : Nat)
    (each : ∀ digit < 16, property (hexDigit digit)) :
    ∀ char ∈ hexDigits width value, property char := by
  intro char member
  obtain ⟨digit, small, rfl⟩ := mem_hexDigits member
  exact each digit small

theorem hexValue?_lt {char : Char} {value : Nat} (found : hexValue? char = some value) :
    value < 16 := by
  unfold hexValue? at found
  simp only [Char.le_def, UInt32.le_iff_toNat_le] at found
  split at found
  case isTrue decimal =>
    have atMost : char.toNat ≤ 57 := decimal.2
    cases found
    omega
  split at found
  case isFalse.isTrue lower =>
    have atMost : char.toNat ≤ 102 := lower.2
    cases found
    omega
  split at found
  case isFalse.isFalse.isTrue upper =>
    have atMost : char.toNat ≤ 70 := upper.2
    cases found
    omega
  cases found

/-! ## Decimal digits -/

/-- The decimal digits of a number, the most significant first. -/
def decimalDigits (number : Nat) : List Nat :=
  if number < 10 then [number]
  else decimalDigits (number / 10) ++ [number % 10]
termination_by number

theorem decimal_eq_map (number : Nat) : decimal number = (decimalDigits number).map digitChar := by
  fun_induction decimal number with
  | case1 number small => simp [decimalDigits, small]
  | case2 number large ih =>
      rw [decimalDigits, if_neg large, ih, List.map_append, List.map_singleton]

theorem decimalDigits_ne_nil (number : Nat) : decimalDigits number ≠ [] := by
  rw [decimalDigits]
  split <;> simp

theorem lt_ten_of_mem_decimalDigits {number digit : Nat}
    (member : digit ∈ decimalDigits number) : digit < 10 := by
  fun_induction decimalDigits number with
  | case1 number small =>
      obtain rfl := List.mem_singleton.mp member
      exact small
  | case2 number large ih =>
      rcases List.mem_append.mp member with front | last
      · exact ih front
      · obtain rfl := List.mem_singleton.mp last
        exact Nat.mod_lt _ (by decide)

theorem ofDigits_append_singleton (digits : List Nat) (digit : Nat) :
    ofDigits (digits ++ [digit]) = 10 * ofDigits digits + digit := by
  simp [ofDigits]

theorem ofDigits_decimalDigits (number : Nat) : ofDigits (decimalDigits number) = number := by
  fun_induction decimalDigits number with
  | case1 number small => simp [ofDigits]
  | case2 number large ih => rw [ofDigits_append_singleton, ih, Nat.div_add_mod]

theorem length_decimalDigits_le_iff {number limit : Nat} (positive : 0 < limit) :
    (decimalDigits number).length ≤ limit ↔ number < 10 ^ limit := by
  induction limit, positive using Nat.le_induction generalizing number with
  | base =>
      rw [decimalDigits]
      split
      case isTrue small => simpa using small
      case isFalse large =>
        have nonempty := List.length_pos_iff.mpr (decimalDigits_ne_nil (number / 10))
        simp only [List.length_append, List.length_singleton]
        omega
  | succ limit positive ih =>
      have step : number / 10 < 10 ^ limit ↔ number < 10 ^ (limit + 1) := by
        rw [pow_succ', Nat.div_lt_iff_lt_mul (by decide), mul_comm]
      rw [decimalDigits, ← step, ← ih]
      split
      case isTrue small =>
        have none : number / 10 = 0 := by omega
        rw [none, decimalDigits]
        simp
        omega
      case isFalse large => simp

theorem digitValue?_digitChar {digit : Nat} (small : digit < 10) :
    digitValue? (digitChar digit) = some digit := by
  revert digit
  decide

theorem moreDigits_map_digitChar {digits : List Nat} (small : ∀ digit ∈ digits, digit < 10) :
    moreDigits (digits.map digitChar) = some digits := by
  induction digits with
  | nil => rfl
  | cons digit digits ih =>
      obtain ⟨digitSmall, laterSmall⟩ := List.forall_mem_cons.mp small
      have notMark : digitChar digit ≠ '_' := by
        intro mark
        have value := digitValue?_digitChar digitSmall
        rw [mark] at value
        cases value
      rw [List.map_cons, moreDigits, digitValue?_digitChar digitSmall, ih laterSmall]
      · rfl
      · intro char rest mark
        exact absurd mark notMark

theorem digitsOf_decimal (number : Nat) :
    digitsOf (decimal number) = some (decimalDigits number) := by
  have small : ∀ digit ∈ decimalDigits number, digit < 10 := fun _ => lt_ten_of_mem_decimalDigits
  rw [decimal_eq_map]
  cases digitsEq : decimalDigits number with
  | nil => exact absurd digitsEq (decimalDigits_ne_nil number)
  | cons digit digits =>
      rw [digitsEq] at small
      obtain ⟨digitSmall, laterSmall⟩ := List.forall_mem_cons.mp small
      simp [digitsOf, digitValue?_digitChar digitSmall, moreDigits_map_digitChar laterSmall]

/-! ## Integers -/

theorem readNatural_decimal (number : Nat) :
    readNatural (decimal number) =
      if (decimalDigits number).length ≤ digitLimit then some number else none := by
  simp [readNatural, digitsOf_decimal, ofDigits_decimalDigits]

theorem hasWritableLength_iff {number : Int} :
    hasWritableLength number = true ↔ (decimalDigits number.natAbs).length ≤ digitLimit := by
  rw [length_decimalDigits_le_iff (by decide), hasWritableLength, decide_eq_true_iff,
    Nat.pow_eq]

/-- A number begins with a digit, which is no sign. -/
theorem exists_decimal_eq_cons (number : Nat) :
    ∃ char rest, decimal number = char :: rest ∧ char ≠ '+' ∧ char ≠ '-' := by
  rw [decimal_eq_map]
  cases digitsEq : decimalDigits number with
  | nil => exact absurd digitsEq (decimalDigits_ne_nil number)
  | cons digit digits =>
      have member : digit ∈ decimalDigits number := by
        rw [digitsEq]
        exact List.mem_cons_self
      have small := lt_ten_of_mem_decimalDigits member
      refine ⟨digitChar digit, digits.map digitChar, rfl, ?_⟩
      clear digitsEq member
      revert digit
      decide

theorem readSigned_signedDecimal (number : Int) :
    readSigned (signedDecimal number) =
      if hasWritableLength number then some number else none := by
  cases number with
  | ofNat number =>
      obtain ⟨char, rest, decimalEq, notPlus, notMinus⟩ := exists_decimal_eq_cons number
      have unsigned :
          readSigned (decimal number) = (readNatural (decimal number)).map Int.ofNat := by
        rw [decimalEq, readSigned]
        · intro rest plus
          exact notPlus (List.cons.inj plus).1
        · intro rest minus
          exact notMinus (List.cons.inj minus).1
      rw [signedDecimal, unsigned, readNatural_decimal]
      simp only [hasWritableLength_iff, Int.ofNat_eq_natCast, Int.natAbs_natCast]
      split <;> rfl
  | negSucc number =>
      rw [signedDecimal, readSigned, readNatural_decimal]
      simp only [hasWritableLength_iff, Int.natAbs_negSucc]
      split <;> rfl

theorem not_isBlank_of_mem_signedDecimal {number : Int} :
    ∀ char ∈ signedDecimal number, isBlank char = false := by
  have digitsOnly (number : Nat) : ∀ char ∈ decimal number, isBlank char = false := by
    rw [decimal_eq_map]
    intro char member
    obtain ⟨digit, digitMember, rfl⟩ := List.mem_map.mp member
    have small := lt_ten_of_mem_decimalDigits digitMember
    clear digitMember member
    revert digit
    decide
  cases number with
  | ofNat number => exact digitsOnly number
  | negSucc number =>
      intro char member
      rcases List.mem_cons.mp member with rfl | member
      · decide
      · exact digitsOnly _ char member

theorem trim_eq_self {isDropped : Char → Bool} {text : List Char}
    (solid : ∀ char ∈ text, isDropped char = false) : trim isDropped text = text := by
  have kept : ∀ {chars : List Char}, (∀ char ∈ chars, isDropped char = false) →
      chars.dropWhile isDropped = chars := by
    intro chars solid
    cases chars with
    | nil => rfl
    | cons char chars => rw [List.dropWhile_cons_of_neg (by simp [solid char List.mem_cons_self])]
  have reversed : ∀ char ∈ text.reverse, isDropped char = false := fun char member =>
    solid char (List.mem_reverse.mp member)
  rw [trim, kept solid, kept reversed, List.reverse_reverse]

theorem isWhitespace_eq_false {char : Char} (notBlank : isBlank char = false) :
    isWhitespace char = false := by
  rw [isWhitespace, notBlank, Bool.false_and]

/-- The text of an integer is read as that integer, unless it has more digits than may be
written. -/
theorem readInteger_integerText (number : Int) :
    readInteger (integerText number) = if hasWritableLength number then some number else none := by
  have solid : ∀ char ∈ signedDecimal number, isWhitespace char = false := fun char member =>
    isWhitespace_eq_false (not_isBlank_of_mem_signedDecimal char member)
  rw [readInteger, integerText, String.toList_ofList, trim_eq_self solid, readSigned_signedDecimal]

/-! ## Integers from any text -/

theorem ofDigits_lt {digits : List Nat} (small : ∀ digit ∈ digits, digit < 10) :
    ofDigits digits < 10 ^ digits.length := by
  induction digits using List.reverseRecOn with
  | nil => decide
  | append_singleton digits digit ih =>
      obtain ⟨earlierSmall, lastSmall⟩ := List.forall_mem_append.mp small
      have earlier := ih earlierSmall
      have last := lastSmall digit (List.mem_singleton_self digit)
      rw [ofDigits_append_singleton, List.length_append, List.length_singleton, pow_succ]
      omega

theorem ofDigits_lt_pow {digits : List Nat} {most : Nat} (small : ∀ digit ∈ digits, digit < 10)
    (few : digits.length ≤ most) : ofDigits digits < Nat.pow 10 most :=
  Nat.lt_of_lt_of_le (ofDigits_lt small) (Nat.pow_le_pow_right (by decide) few)

theorem lt_ten_of_moreDigits {text : List Char} {digits : List Nat}
    (reads : moreDigits text = some digits) : ∀ digit ∈ digits, digit < 10 := by
  fun_induction moreDigits text generalizing digits with
  | case1 =>
      cases reads
      exact List.forall_mem_nil _
  | case2 char rest ih | case3 char rest _ ih =>
      simp only [Option.bind_eq_bind, Option.bind_eq_some_iff, Option.pure_def,
        Option.some.injEq] at reads
      obtain ⟨digit, value, others, more, rfl⟩ := reads
      exact List.forall_mem_cons.mpr ⟨digitValue?_lt value, ih more⟩

theorem lt_ten_of_digitsOf {text : List Char} {digits : List Nat}
    (reads : digitsOf text = some digits) : ∀ digit ∈ digits, digit < 10 := by
  cases text with
  | nil => cases reads
  | cons char rest =>
      simp only [digitsOf, Option.bind_eq_bind, Option.bind_eq_some_iff, Option.pure_def,
        Option.some.injEq] at reads
      obtain ⟨digit, value, others, more, rfl⟩ := reads
      exact List.forall_mem_cons.mpr ⟨digitValue?_lt value, lt_ten_of_moreDigits more⟩

theorem readNatural_lt {text : List Char} {number : Nat}
    (reads : readNatural text = some number) : number < Nat.pow 10 digitLimit := by
  simp only [readNatural, Option.bind_eq_bind, Option.bind_eq_some_iff] at reads
  obtain ⟨digits, digitsRead, reads⟩ := reads
  split at reads
  case isTrue few =>
    cases reads
    exact ofDigits_lt_pow (lt_ten_of_digitsOf digitsRead) few
  case isFalse => cases reads

theorem hasWritableLength_of_readInteger {text : String} {number : Int}
    (reads : readInteger text = some number) : hasWritableLength number = true := by
  have fits {natural : Nat} {rest : List Char} (reads : readNatural rest = some natural)
      (same : number.natAbs = natural) : hasWritableLength number = true := by
    rw [hasWritableLength, decide_eq_true_iff, same]
    exact readNatural_lt reads
  unfold readInteger readSigned at reads
  split at reads
  all_goals
    obtain ⟨natural, naturalRead, rfl⟩ := Option.map_eq_some_iff.mp reads
    exact fits naturalRead (by simp)

end LicenseExpr.Text
