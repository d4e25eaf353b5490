import LicenseExpr.Number.Binary64

/-!
# The shortest decimal that reads back

Every double is the nearest double to a whole interval of real numbers. The
shortest decimal is found on ever finer decimal grids: on each grid only the
two neighbours of the double can lie in the interval, the first grid with a
neighbour inside wins, and of two the nearer one.
-/

namespace LicenseExpr.Number

/-- A positive decimal number `0.d₁d₂… * 10 ^ point`, with `d₁d₂…` the digits of `digits`. -/
structure Digits where
  digits : Nat
  point : Int
deriving DecidableEq

/-- The real numbers that round to `mantissa * 2 ^ exponent`, as quarters of
`2 ^ exponent`: the lower end, the double itself and the upper end. -/
def quarterBounds (mantissa : Nat) (exponent : Int) : Nat × Nat × Nat :=
  let below := if mantissa = mantissaLimit / 2 ∧ exponent > Binary64.leastExponent then 1 else 2
  (4 * mantissa - below, 4 * mantissa, 4 * mantissa + 2)

/-- The number of places between the decimal point and the first digit of a positive
quotient, searched upwards for at most the given number of steps. -/
def pointOf : (steps : Nat) → (point : Int) → (numerator denominator : Nat) → Int
  | 0, point, _, _ => point
  | steps + 1, point, numerator, denominator =>
      let scaled := scaleQuotient 10 (-point) numerator denominator
      if scaled.1 < scaled.2 then point
      else pointOf steps (point + 1) numerator denominator

/-- Trailing zeros taken off a digit string of at most the given length. -/
def withoutTrailingZeros : (steps : Nat) → Nat → Nat
  | 0, digits => digits
  | steps + 1, digits =>
      if digits ≠ 0 ∧ digits % 10 = 0 then withoutTrailingZeros steps (digits / 10)
      else digits

/-- The best number of `count` digits in the interval of a double, if there is one. -/
def candidate (mantissa : Nat) (exponent point : Int) (count : Nat) : Option Digits :=
  let bounds := quarterBounds mantissa exponent
  let unit := scaleQuotient 2 (exponent - 2) 1 1
  let grid := scaleQuotient 10 (count - point) unit.1 unit.2
  let floor := bounds.2.1 * grid.1 / grid.2
  let ceiling := if floor * grid.2 = bounds.2.1 * grid.1 then floor else floor + 1
  let inside (digits : Nat) : Bool :=
    if mantissa % 2 = 0 then
      bounds.1 * grid.1 ≤ digits * grid.2 && digits * grid.2 ≤ bounds.2.2 * grid.1
    else bounds.1 * grid.1 < digits * grid.2 && digits * grid.2 < bounds.2.2 * grid.1
  let down := bounds.2.1 * grid.1 - floor * grid.2
  let up := ceiling * grid.2 - bounds.2.1 * grid.1
  let chosen :=
    if inside floor && inside ceiling then
      some (if down < up ∨ (down = up ∧ floor % 2 = 0) then floor else ceiling)
    else if inside floor then some floor
    else if inside ceiling then some ceiling
    else none
  chosen.map fun digits =>
    ⟨withoutTrailingZeros count digits,
      point + Binary64.digitCount digits - count⟩

/-- The shortest decimal that rounds to the positive double `mantissa * 2 ^ exponent`. -/
def shortest (mantissa : Nat) (exponent : Int) : Digits :=
  let quotient := scaleQuotient 2 exponent mantissa 1
  let point := pointOf 700 (-330) quotient.1 quotient.2
  ((List.range 17).findSome? fun index => candidate mantissa exponent point (index + 1)).getD
    ⟨mantissa, Binary64.digitCount mantissa⟩

end LicenseExpr.Number
