import LicenseExpr.Number.Binary64
import LicenseExpr.Text.Numeral

/-!
# Decimal numbers as text

An unsigned decimal number is written as digits, perhaps with a point and more
digits after them, and perhaps with an exponent.
-/

namespace LicenseExpr.Number

def asciiNatural? (digits : List Char) : Option Nat :=
  if digits ≠ [] ∧ digits.all Char.isDigit then
    some (Text.ofDigits (digits.map fun char => char.toNat - 48))
  else none

def signed (negative : Bool) (number : Nat) : Int :=
  if negative then -(number : Int) else number

def exponent? : List Char → Option Int
  | '+' :: digits => (asciiNatural? digits).map (signed false)
  | '-' :: digits => (asciiNatural? digits).map (signed true)
  | digits => (asciiNatural? digits).map (signed false)

structure DecimalText where
  /-- The digits before the point. -/
  whole : List Char
  /-- The digits after the point; empty if there is no point. -/
  fraction : List Char
  exponent : Option Int

namespace DecimalText

def read? (text : List Char) : Option DecimalText := do
  let whole := text.takeWhile Char.isDigit
  let (fraction, rest) ← match text.dropWhile Char.isDigit with
    | '.' :: more =>
        if more.takeWhile Char.isDigit = [] then none
        else some (more.takeWhile Char.isDigit, more.dropWhile Char.isDigit)
    | rest => some ([], rest)
  let exponent ← match rest with
    | [] => some none
    | mark :: more => if mark = 'e' ∨ mark = 'E' then (exponent? more).map some else none
  if whole = [] then none else some ⟨whole, fraction, exponent⟩

/-- Whether there is neither a point nor an exponent. -/
def isInteger (text : DecimalText) : Bool :=
  text.fraction.isEmpty && text.exponent.isNone

def wholeNumber (text : DecimalText) : Nat :=
  (asciiNatural? text.whole).getD 0

def decimal (negative : Bool) (text : DecimalText) : Decimal where
  negative := negative
  digits := (asciiNatural? (text.whole ++ text.fraction)).getD 0
  scale := text.exponent.getD 0 - text.fraction.length

end DecimalText

end LicenseExpr.Number
