/-!
# Double precision numbers

A finite double is a sign, a mantissa below 2^53 and a power of two. A decimal
number is rounded to the nearest double in exact arithmetic on natural
numbers; a tie goes to the even mantissa, and what is too large to round
becomes infinite.
-/

namespace LicenseExpr.Number

/-- A double: `mantissa * 2 ^ exponent` with a sign, an infinity, or no number. -/
inductive Binary64 where
  | finite (negative : Bool) (mantissa : Nat) (exponent : Int)
  | infinite (negative : Bool)
  | notANumber
deriving DecidableEq

/-- A decimal number as it is written: `digits * 10 ^ scale` with a sign. -/
structure Decimal where
  negative : Bool
  digits : Nat
  scale : Int
deriving DecidableEq

/-- Two to the power of 53, which all mantissas are below. -/
def mantissaLimit : Nat := 9007199254740992

/-- A quotient rounded to the nearest natural number, a tie to the even one. -/
def roundQuotient (numerator denominator : Nat) : Nat :=
  let quotient := numerator / denominator
  let rest := numerator % denominator
  if 2 * rest > denominator ∨ (2 * rest = denominator ∧ quotient % 2 = 1) then quotient + 1
  else quotient

/-- `value * base ^ exponent` as a quotient of natural numbers. -/
def scaleQuotient (base : Nat) (exponent : Int) (numerator denominator : Nat) : Nat × Nat :=
  match exponent with
  | .ofNat power => (numerator * Nat.pow base power, denominator)
  | .negSucc power => (numerator, denominator * Nat.pow base (power + 1))

namespace Binary64

def leastExponent : Int := -1074

def greatestExponent : Int := 971

/-- The exponent that gives a positive quotient a mantissa of 53 bits, or the least one. -/
def exponentOf (numerator denominator : Nat) : Int :=
  let guess : Int := (Nat.log2 numerator : Int) - Nat.log2 denominator - 53
  let scaled := scaleQuotient 2 (-guess) numerator denominator
  max leastExponent (if scaled.1 / scaled.2 < mantissaLimit then guess else guess + 1)

def ofQuotient (negative : Bool) (numerator denominator : Nat) : Binary64 :=
  let exponent := exponentOf numerator denominator
  let scaled := scaleQuotient 2 (-exponent) numerator denominator
  let mantissa := roundQuotient scaled.1 scaled.2
  let carried : Nat × Int :=
    if mantissa = mantissaLimit then (mantissaLimit / 2, exponent + 1) else (mantissa, exponent)
  if carried.2 > greatestExponent then .infinite negative
  else .finite negative carried.1 carried.2

def signedZero (negative : Bool) : Binary64 :=
  .finite negative 0 leastExponent

/-- The number of decimal digits of a natural number, at least one. -/
def digitCount (number : Nat) : Nat :=
  if number < 10 then 1 else digitCount (number / 10) + 1
termination_by number

/-- The double nearest to a decimal number. Scales far outside the range of doubles are
settled by the number's size alone. -/
def ofDecimal (decimal : Decimal) : Binary64 :=
  let size := decimal.scale + digitCount decimal.digits
  if decimal.digits = 0 ∨ size < -330 then signedZero decimal.negative
  else if size > 320 then .infinite decimal.negative
  else
    let quotient := scaleQuotient 10 decimal.scale decimal.digits 1
    ofQuotient decimal.negative quotient.1 quotient.2

end Binary64

end LicenseExpr.Number
