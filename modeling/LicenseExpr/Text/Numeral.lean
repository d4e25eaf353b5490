import LicenseExpr.Text.DecimalDigit
import LicenseExpr.Text.Whitespace

/-!
# Integers as text

Integers are written in ASCII digits without leading zeros. They are read
more freely: whitespace may surround the number, one sign may stand before it,
the digits may be of any script, and single underscores may stand between
digits. The number of digits is limited both ways.
-/

namespace LicenseExpr.Text

def digitChar (digit : Nat) : Char :=
  Char.ofNat (48 + digit)

def decimal (number : Nat) : List Char :=
  if number < 10 then [digitChar number]
  else decimal (number / 10) ++ [digitChar (number % 10)]
termination_by number

/-- An integer in decimal digits, with a minus sign if it is negative. -/
def signedDecimal : Int → List Char
  | .ofNat number => decimal number
  | .negSucc number => '-' :: decimal (number + 1)

def integerText (number : Int) : String :=
  String.ofList (signedDecimal number)

def ofDigits (digits : List Nat) : Nat :=
  digits.foldl (fun number digit => 10 * number + digit) 0

def moreDigits : List Char → Option (List Nat)
  | [] => some []
  | '_' :: char :: rest => do
      let digit ← digitValue? char
      return digit :: (← moreDigits rest)
  | char :: rest => do
      let digit ← digitValue? char
      return digit :: (← moreDigits rest)

/-- The digits of a text that is nothing but a number without sign. -/
def digitsOf : List Char → Option (List Nat)
  | [] => none
  | char :: rest => do
      let digit ← digitValue? char
      return digit :: (← moreDigits rest)

/-- The most digits that an integer may be read from, or be written in. -/
def digitLimit : Nat := 4300

/-- Whether an integer has no more digits than may be written. -/
def hasWritableLength (number : Int) : Bool :=
  number.natAbs < Nat.pow 10 digitLimit

/-- The failure to write an integer of too many digits. -/
structure IntegerTooLong where
deriving DecidableEq

def IntegerTooLong.message (_ : IntegerTooLong) : String :=
  "Exceeds the limit (" ++ integerText digitLimit ++ " digits) for integer string conversion; " ++
    "use sys.set_int_max_str_digits() to increase the limit"

def readNatural (text : List Char) : Option Nat := do
  let digits ← digitsOf text
  if digits.length ≤ digitLimit then some (ofDigits digits) else none

def readSigned : List Char → Option Int
  | '+' :: rest => (readNatural rest).map Int.ofNat
  | '-' :: rest => (readNatural rest).map fun number : Nat => -(number : Int)
  | text => (readNatural text).map Int.ofNat

def readInteger (text : String) : Option Int :=
  readSigned (trim isWhitespace text.toList)

end LicenseExpr.Text
