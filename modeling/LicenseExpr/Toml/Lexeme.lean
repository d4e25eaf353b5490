import LicenseExpr.Number.DecimalText
import LicenseExpr.Settings.Setting
import LicenseExpr.Text.Hexadecimal

/-!
# Words of a TOML document

Strings in their four forms, keys, numbers, dates and times. Each reader takes
its word from the front of a text and gives back what follows.
-/

namespace LicenseExpr.Toml

open LicenseExpr.Text LicenseExpr.Number

def isSpace (char : Char) : Bool :=
  char == ' ' || char == '\t'

def skipSpaces (text : List Char) : List Char :=
  text.dropWhile isSpace

/-- A control character that may not occur in comments and strings. -/
def isControl (char : Char) : Bool :=
  (char.toNat < 0x20 && char != '\t') || char.toNat == 0x7F

/-- The character of a code point given by `width` hexadecimal digits; surrogates and numbers
beyond the last code point stand for none. -/
def codePoint? (width : Nat) (text : List Char) : Option (Char × List Char) := do
  let digits := text.take width
  if digits.length < width then none
  else
    let code ← hexNumber? digits
    if code.isValidChar then some (Char.ofNat code, text.drop width) else none

/-- The character that an escape stands for, after its backslash. -/
def escape? : List Char → Option (Char × List Char)
  | 'x' :: rest => codePoint? 2 rest
  | 'u' :: rest => codePoint? 4 rest
  | 'U' :: rest => codePoint? 8 rest
  | char :: rest =>
      ([('"', '"'), ('\\', '\\'), ('b', '\x08'), ('e', '\x1b'), ('f', '\x0c'), ('n', '\n'),
        ('r', '\r'), ('t', '\t')].lookup char).map fun escaped => (escaped, rest)
  | [] => none

/-- The characters of a string on one line up to its closing quote, and what follows. -/
def lineString (basic : Bool) (text : List Char) : Option (List Char × List Char) :=
  match text with
  | [] => none
  | char :: rest =>
      if char = (if basic then '"' else '\'') then some ([], rest)
      else if basic ∧ char = '\\' then
        match escape? rest with
        | some (escaped, after) =>
            if after.length ≤ rest.length then
              (lineString basic after).map fun body => (escaped :: body.1, body.2)
            else none
        | none => none
      else if isControl char then none
      else (lineString basic rest).map fun body => (char :: body.1, body.2)
termination_by text.length

/-- What follows a backslash at the end of a line: the blanks and line ends after it are left
out. -/
def lineContinuation? (text : List Char) : Option (List Char) :=
  let isGap (char : Char) : Bool := isSpace char || char == '\n'
  if '\n' ∈ text.takeWhile isGap then some (text.dropWhile isGap) else none

/-- The characters of a string of several lines up to its three closing quotes, and what
follows. Up to two quotes may stand directly before the closing ones. -/
def blockString (basic : Bool) (text : List Char) : Option (List Char × List Char) :=
  match text with
  | [] => none
  | char :: rest =>
      let quote := if basic then '"' else '\''
      if char = quote then
        let count := (rest.takeWhile (· == quote)).length + 1
        if count < 3 then
          (blockString basic (rest.dropWhile (· == quote))).map fun body =>
            (List.replicate count quote ++ body.1, body.2)
        else if count < 6 then
          some (List.replicate (count - 3) quote, rest.dropWhile (· == quote))
        else none
      else if basic ∧ char = '\\' then
        match lineContinuation? rest with
        | some after => if after.length ≤ rest.length then blockString basic after else none
        | none =>
            match escape? rest with
            | some (escaped, after) =>
                if after.length ≤ rest.length then
                  (blockString basic after).map fun body => (escaped :: body.1, body.2)
                else none
            | none => none
      else if isControl char ∧ char ≠ '\n' then none
      else (blockString basic rest).map fun body => (char :: body.1, body.2)
termination_by text.length
decreasing_by
  · exact Nat.lt_succ_of_le (List.dropWhile_sublist _).length_le
  all_goals simp only [List.length_cons]
  all_goals omega

/-- The string that a text begins with. A line end directly after three opening quotes does
not count. -/
def string? : List Char → Option (List Char × List Char)
  | '"' :: '"' :: '"' :: '\n' :: rest => blockString true rest
  | '"' :: '"' :: '"' :: rest => blockString true rest
  | '"' :: rest => lineString true rest
  | '\'' :: '\'' :: '\'' :: '\n' :: rest => blockString false rest
  | '\'' :: '\'' :: '\'' :: rest => blockString false rest
  | '\'' :: rest => lineString false rest
  | _ => none

def isKeyChar (char : Char) : Bool :=
  char.isAlphanum || char == '-' || char == '_'

/-- The part of a key, up to a dot, that a text begins with. Without quotes it is one word. -/
def keyPart? (text : List Char) : Option (String × List Char) :=
  match text with
  | '"' :: '"' :: '"' :: _ => none
  | '\'' :: '\'' :: '\'' :: _ => none
  | '"' :: rest => (lineString true rest).map fun body => (String.ofList body.1, body.2)
  | '\'' :: rest => (lineString false rest).map fun body => (String.ofList body.1, body.2)
  | _ =>
      let rest := text.dropWhile isKeyChar
      if text.takeWhile isKeyChar = [] ∨ (skipSpaces rest).head?.any isKeyChar then none
      else some (String.ofList (text.takeWhile isKeyChar), rest)

/-- The parts of the key that a text begins with, blanks around the parts skipped. -/
def keyParts? (text : List Char) : Option (List String × List Char) := do
  let (part, rest) ← keyPart? (skipSpaces text)
  match skipSpaces rest with
  | '.' :: more =>
      if more.length < text.length then
        let (path, after) ← keyParts? more
        return (part :: path, after)
      else none
  | after => return ([part], after)
termination_by text.length

/-- How deep arrays and inline tables may be nested, and how many parts a key may have. -/
def nestingLimit : Nat := 100

def key? (text : List Char) : Option (List String × List Char) := do
  let (path, after) ← keyParts? text
  if path.length ≤ nestingLimit then some (path, after) else none

/-! ## Numbers -/

def isDigitOf (base : Nat) (char : Char) : Bool :=
  match hexValue? char with
  | some value => value < base
  | none => false

/-- The text without the underscores that stand between two digits of a base, as long as the
character before the text is known. -/
def withoutSeparators (base : Nat) (before : Char) : List Char → List Char
  | [] => []
  | '_' :: char :: rest =>
      if isDigitOf base before && isDigitOf base char then
        char :: withoutSeparators base char rest
      else '_' :: withoutSeparators base '_' (char :: rest)
  | char :: rest => char :: withoutSeparators base char rest
termination_by text => text.length

def digitsOfBase? (base : Nat) (digits : List Char) : Option Nat :=
  if digits = [] then none
  else
    digits.foldlM (fun number char => do
      let value ← hexValue? char
      if value < base then some (base * number + value) else none) 0

/-- The ASCII digit of the same value in place of a digit of any script. -/
def toAsciiDigit (char : Char) : Char :=
  match digitValue? char with
  | some value => digitChar value
  | none => char

/-- The characters of a number in a base: underscores between ASCII digits do not count, nor
does whitespace at the end, and the digits may be of any script. -/
def numerals (base : Nat) (text : List Char) : List Char :=
  ((withoutSeparators base 'x' text).reverse.dropWhile isWhitespace).reverse.map
    toAsciiDigit

/-- Whether a superfluous zero stands in front of a decimal number. -/
def hasLeadingZero : List Char → Bool
  | '0' :: next :: _ => next != '.' && next != 'e' && next != 'E'
  | _ => false

/-- An unsigned decimal number without superfluous zeros in front. An integer may not have too
many digits. -/
def decimal? (negative : Bool) (text : List Char) : Option Setting :=
  if hasLeadingZero text then none
  else
    match DecimalText.read? (numerals 10 text) with
    | none => none
    | some number =>
        if !number.isInteger then some (.real (Binary64.ofDecimal (number.decimal negative)))
        else if number.whole.length ≤ digitLimit then
          some (.integer (signed negative number.wholeNumber))
        else none

/-- A decimal number behind its sign, infinity, or what is no number. -/
def signed? (negative : Bool) (text : List Char) : Option Setting :=
  if text = "inf".toList then some (.real (.infinite negative))
  else if text = "nan".toList then some (.real .notANumber)
  else decimal? negative text

/-- A number: an integer in base 2, 8, 10 or 16, a decimal fraction, infinity or no number.
Without a sign it begins with an ASCII digit. -/
def number? : List Char → Option Setting
  | '0' :: 'x' :: rest => (digitsOfBase? 16 (numerals 16 rest)).map fun value => .integer value
  | '0' :: 'o' :: rest => (digitsOfBase? 8 (numerals 8 rest)).map fun value => .integer value
  | '0' :: 'b' :: rest => (digitsOfBase? 2 (numerals 2 rest)).map fun value => .integer value
  | '+' :: rest => signed? false rest
  | '-' :: rest => signed? true rest
  | first :: rest =>
      if first.isDigit || first == 'i' || first == 'n' then signed? false (first :: rest)
      else none
  | [] => none

/-! ## Dates and times -/

/-- A number of exactly `width` digits at the front of a text. -/
def fixed? (width : Nat) (text : List Char) : Option (Nat × List Char) :=
  if (text.take width).length < width then none
  else (digitsOfBase? 10 (text.take width)).map fun value => (value, text.drop width)

def expect? (char : Char) : List Char → Option (List Char)
  | first :: rest => if first = char then some rest else none
  | [] => none

def date? (text : List Char) : Option (Date × List Char) := do
  let (year, text) ← fixed? 4 text
  let (month, text) ← fixed? 2 (← expect? '-' text)
  let (day, text) ← fixed? 2 (← expect? '-' text)
  let date : Date := ⟨year, month, day⟩
  if date.isValid then some (date, text) else none

def microseconds? (digits : List Char) : Option Nat :=
  digitsOfBase? 10 ((digits ++ List.replicate 6 '0').take 6)

/-- The seconds at the front of a text, perhaps with a fraction, in whole seconds and
microseconds. -/
def seconds? (text : List Char) : Option ((Nat × Nat) × List Char) := do
  let (second, text) ← fixed? 2 text
  match text with
  | '.' :: rest =>
      if rest.takeWhile (isDigitOf 10) = [] then none
      else
        (microseconds? (rest.takeWhile (isDigitOf 10))).map fun value =>
          ((second, value), rest.dropWhile (isDigitOf 10))
  | _ => some ((second, 0), text)

/-- The time of day at the front of a text. The seconds may be left out. -/
def time? (text : List Char) : Option (TimeOfDay × List Char) := do
  let (hour, text) ← fixed? 2 text
  let (minute, text) ← fixed? 2 (← expect? ':' text)
  let ((second, microsecond), text) ← match text with
    | ':' :: rest => seconds? rest
    | _ => some ((0, 0), text)
  let time : TimeOfDay := ⟨hour, minute, second, microsecond⟩
  if time.isValid then some (time, text) else none

/-- The offset that a text consists of; an empty text means that there is none. -/
def offset? : List Char → Option (Option Offset)
  | [] => some none
  | ['Z'] => some (some ⟨0, "UTC"⟩)
  | ['z'] => some (some ⟨0, "UTC"⟩)
  | sign :: rest => do
      let (hours, text) ← fixed? 2 rest
      let (minutes, text) ← fixed? 2 (← expect? ':' text)
      if (sign = '+' ∨ sign = '-') ∧ hours < 24 ∧ minutes < 60 ∧ text = [] then
        let total : Int := hours * 60 + minutes
        return some ⟨if sign = '-' then -total else total, String.ofList (sign :: rest)⟩
      else none

def moment? (text : List Char) : Option Moment :=
  match date? text with
  | some (date, []) => some (.date date)
  | some (date, mark :: rest) =>
      if mark = 'T' ∨ mark = 't' ∨ mark = ' ' then do
        let (time, rest) ← time? rest
        let offset ← offset? rest
        return .dateTime date time offset
      else none
  | none =>
      match time? text with
      | some (time, []) => some (.time time)
      | _ => none

def endsWord (char : Char) : Bool :=
  char == ' ' || char == '\t' || char == '\n' || char == '\r' || char == '#' || char == ',' ||
    char == ']' || char == '\x7d'

/-- The number or moment that a text begins with, and what follows. A date may be followed by a
blank and a time of day. -/
def word? (text : List Char) : Option (Setting × List Char) :=
  let word := text.takeWhile (!endsWord ·)
  let rest := text.dropWhile (!endsWord ·)
  match moment? word with
  | some (.date date) =>
      let more := rest.takeWhile fun char => char == ' ' || !endsWord char
      let after := rest.dropWhile fun char => char == ' ' || !endsWord char
      let time := (more.reverse.dropWhile isBlank).reverse
      if time = [] then some (.moment (.date date), after)
      else
        match moment? (word ++ time) with
        | some (.dateTime date time offset) => some (.moment (.dateTime date time offset), after)
        | _ => none
  | some moment => some (.moment moment, rest)
  | none => (number? word).map fun number => (number, rest)

end LicenseExpr.Toml
