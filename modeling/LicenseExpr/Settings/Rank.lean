import LicenseExpr.Settings.Setting
import LicenseExpr.Text.CodePointOrder

/-!
# The order of settings

Values of one class are ordered: numbers by size, whatever their kind, texts by
code points, and moments by time. A truth value counts as a number. Values of
different classes cannot be compared.
-/

namespace LicenseExpr

/-- The place of a value among the values of its class. -/
inductive Rank where
  | number (value : Rat)
  | infinite (negative : Bool)
  | notANumber
  | text (value : String)
  | day (ordinal : Nat)
  | clock (microseconds : Nat)
  | localTime (microseconds : Int)
  | universalTime (microseconds : Int)
deriving DecidableEq

namespace Rank

/-- Which of two values of a class is less; nothing for values of different classes. What is
no number is not less than anything. -/
def less? : Rank → Rank → Option Bool
  | .number first, .number second => some (first < second)
  | .number _, .infinite negative => some !negative
  | .infinite negative, .number _ => some negative
  | .infinite negative, .infinite other => some (negative && !other)
  | .notANumber, .number _ | .notANumber, .infinite _ | .notANumber, .notANumber => some false
  | .number _, .notANumber | .infinite _, .notANumber => some false
  | .text first, .text second => some (first < second)
  | .day first, .day second => some (first < second)
  | .clock first, .clock second => some (first < second)
  | .localTime first, .localTime second => some (first < second)
  | .universalTime first, .universalTime second => some (first < second)
  | _, _ => none

end Rank

/-- The number of a day, counted from the first of January of the year one. -/
def Date.ordinal (date : Date) : Nat :=
  let years := date.year - 1
  let months := (List.range (date.month - 1)).foldl
    (fun days index => days + daysIn date.year (index + 1)) 0
  365 * years + years / 4 - years / 100 + years / 400 + months + date.day

def TimeOfDay.microseconds (time : TimeOfDay) : Nat :=
  ((time.hour * 60 + time.minute) * 60 + time.second) * 1000000 + time.microsecond

/-- The rank of a moment. With an offset, universal time counts. -/
def Moment.rank : Moment → Rank
  | .date day => .day day.ordinal
  | .time clock => .clock clock.microseconds
  | .dateTime day clock zone =>
      let total := day.ordinal * 86400000000 + clock.microseconds
      match zone with
      | none => .localTime total
      | some offset => .universalTime (total - offset.minutes * 60000000)

/-- The rank of a double, which for a finite one is its exact value. -/
def Number.Binary64.rank : Number.Binary64 → Rank
  | .finite negative mantissa exponent =>
      .number ((if negative then -1 else 1) * (mantissa : Rat) * (2 : Rat) ^ exponent)
  | .infinite negative => .infinite negative
  | .notANumber => .notANumber

/-- The rank of a value; lists, tables and the absence of a value have none. -/
def Setting.rank? : Setting → Option Rank
  | .null => none
  | .boolean value => some (.number (if value then 1 else 0))
  | .integer value => some (.number value)
  | .real value => some value.rank
  | .text value => some (.text value)
  | .moment value => some value.rank
  | .list _ => none
  | .table _ => none

end LicenseExpr
