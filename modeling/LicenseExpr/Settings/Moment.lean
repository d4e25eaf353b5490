import LicenseExpr.Text.Numeral

/-!
# Dates and times

A settings document may hold dates, times of day, and both together, with or
without the offset of a time zone.
-/

namespace LicenseExpr

structure Date where
  year : Nat
  month : Nat
  day : Nat
deriving DecidableEq

structure TimeOfDay where
  hour : Nat
  minute : Nat
  second : Nat
  microsecond : Nat
deriving DecidableEq

/-- How far a time zone is ahead of universal time, in minutes, and what it is called. -/
structure Offset where
  minutes : Int
  name : String
deriving DecidableEq

inductive Moment where
  | date (day : Date)
  | time (clock : TimeOfDay)
  | dateTime (day : Date) (clock : TimeOfDay) (zone : Option Offset)
deriving DecidableEq

namespace Date

def isLeapYear (year : Nat) : Bool :=
  year % 4 = 0 && (year % 100 != 0 || year % 400 = 0)

def daysIn (year month : Nat) : Nat :=
  match month with
  | 2 => if isLeapYear year then 29 else 28
  | 4 | 6 | 9 | 11 => 30
  | _ => 31

def isValid (date : Date) : Bool :=
  1 ≤ date.year && 1 ≤ date.month && date.month ≤ 12 && 1 ≤ date.day &&
    date.day ≤ daysIn date.year date.month

def parts (date : Date) : List Nat :=
  [date.year, date.month, date.day]

end Date

namespace TimeOfDay

def isValid (time : TimeOfDay) : Bool :=
  time.hour < 24 && time.minute < 60 && time.second < 60 && time.microsecond < 1000000

/-- Hour and minute, the second unless the rest is zero, and the microsecond unless it is
zero. -/
def parts (time : TimeOfDay) : List Nat :=
  [time.hour, time.minute] ++
    (if time.second = 0 ∧ time.microsecond = 0 then []
    else if time.microsecond = 0 then [time.second]
    else [time.second, time.microsecond])

end TimeOfDay

namespace Offset

/-- The offset as whole days and the seconds that remain, with zero parts left out. -/
def durationText (minutes : Int) : String :=
  let days := Int.fdiv minutes 1440
  let seconds := 60 * Int.fmod minutes 1440
  let parts :=
    (if days = 0 then [] else ["days=" ++ Text.integerText days]) ++
      (if seconds = 0 then [] else ["seconds=" ++ Text.integerText seconds])
  "datetime.timedelta(" ++ (if parts = [] then "0" else ", ".intercalate parts) ++ ")"

end Offset

namespace Moment

def kind : Moment → String
  | .date _ => "datetime.date"
  | .time _ => "datetime.time"
  | .dateTime _ _ _ => "datetime.datetime"

def parts : Moment → List String
  | .date day => day.parts.map fun part : Nat => Text.integerText part
  | .time clock => clock.parts.map fun part : Nat => Text.integerText part
  | .dateTime day clock zone =>
      ((day.parts ++ clock.parts).map fun part : Nat => Text.integerText part) ++
        match zone with
        | none => []
        | some offset =>
            ["tzinfo=datetime.timezone(" ++ Offset.durationText offset.minutes ++ ", '" ++
              offset.name ++ "')"]

def details (moment : Moment) : String :=
  moment.kind ++ "(" ++ ", ".intercalate moment.parts ++ ")"

end Moment

end LicenseExpr
