import LicenseExpr.Log.Fields
import LicenseExpr.Text.Numeral

/-!
# Truncation of long values

Expressions may be arbitrarily long, so a long text in a log record is cut. A
mark after it says how many characters are missing. The name of the event is
never cut.
-/

namespace LicenseExpr.Log

/-- The most characters of a text that is not cut. -/
def lengthLimit : Nat := 200

/-- The mark after a text from which the given number of characters is missing. -/
def cutMark (dropped : Nat) : List Char :=
  "...[+".toList ++ Text.decimal dropped ++ " chars]".toList

def truncated (text : List Char) : List Char :=
  if text.length ≤ lengthLimit then text
  else text.take lengthLimit ++ cutMark (text.length - lengthLimit)

/-- A value as it stands in a log record: only texts are cut, not what is inside lists and
objects. -/
def truncatedValue : Json → Json
  | .text value => .text (String.ofList (truncated value.toList))
  | value => value

/-- The name of the field that holds the name of the event. -/
def eventKey : String := "event"

def Fields.truncate (fields : Fields) : Fields :=
  fields.map fun field =>
    if field.1 = eventKey then field else (field.1, truncatedValue field.2)

end LicenseExpr.Log
