import LicenseExpr.Number.Shortest
import LicenseExpr.Text.Numeral

/-!
# How doubles are written

A double is written with the fewest digits that read back. Where the first
digit stands decides between the positional form, always with a fraction, and
the form with an exponent.
-/

namespace LicenseExpr.Number

open LicenseExpr.Text

structure Layout where
  /-- The least power of ten of the first digit that is written positionally. -/
  leastPositional : Int
  /-- The greatest such power. -/
  greatestPositional : Int
  /-- The least number of digits of an exponent. -/
  exponentWidth : Nat
  /-- What stands for infinity. -/
  infinity : String
  /-- What stands for the double that is no number. -/
  notANumber : String

/-- Numbers are positional from 10^-4 up to below 10^16, and exponents have two digits or more. -/
def standardLayout : Layout :=
  ⟨-4, 15, 2, "inf", "nan"⟩

/-- The digits with zeros in front up to the given width. -/
def padded (width : Nat) (digits : List Char) : List Char :=
  List.replicate (width - digits.length) '0' ++ digits

/-- The exponent of a number: a sign and at least the given number of digits. -/
def exponentText (width : Nat) (exponent : Int) : List Char :=
  (if exponent < 0 then '-' else '+') :: padded width (decimal exponent.natAbs)

/-- A digit string with a decimal point at the given place, and zeros as needed. -/
def positional (digits : List Char) (point : Int) : List Char :=
  match point with
  | .ofNat place =>
      if place = 0 then '0' :: '.' :: digits
      else if place < digits.length then digits.take place ++ '.' :: digits.drop place
      else digits ++ List.replicate (place - digits.length) '0' ++ ['.', '0']
  | .negSucc zeros => '0' :: '.' :: (List.replicate (zeros + 1) '0' ++ digits)

def digitsText (layout : Layout) (number : Digits) : List Char :=
  let digits := decimal number.digits
  let power := number.point - 1
  if layout.leastPositional ≤ power ∧ power ≤ layout.greatestPositional then
    positional digits number.point
  else
    digits.take 1 ++ (if digits.length = 1 then [] else '.' :: digits.drop 1) ++
      'e' :: exponentText layout.exponentWidth power

def Binary64.text (layout : Layout) : Binary64 → String
  | .finite negative mantissa exponent =>
      let unsigned :=
        if mantissa = 0 then ['0', '.', '0'] else digitsText layout (shortest mantissa exponent)
      String.ofList (if negative then '-' :: unsigned else unsigned)
  | .infinite negative => if negative then "-" ++ layout.infinity else layout.infinity
  | .notANumber => layout.notANumber

end LicenseExpr.Number
