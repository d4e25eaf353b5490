import LicenseExpr.Json.Value
import LicenseExpr.Number.DecimalText
import LicenseExpr.Text.Hexadecimal

/-!
# Reading JSON

A text is first cut into tokens. A machine with a stack then reads the tokens
one at a time: the stack holds the arrays and objects that are still open,
innermost first.
-/

namespace LicenseExpr.Json

open LicenseExpr.Text LicenseExpr.Number

/-- A token: a mark of structure, a string, or any other value without parts. -/
inductive Token where
  | openBracket
  | closeBracket
  | openBrace
  | closeBrace
  | comma
  | colon
  | text (value : String)
  | scalar (value : Json)

/-- JSON knows four blanks. -/
def isSpace (char : Char) : Bool :=
  char == ' ' || char == '\n' || char == '\r' || char == '\t'

def shortEscape? (char : Char) : Option Char :=
  [('"', '"'), ('\\', '\\'), ('/', '/'), ('b', '\x08'), ('f', '\x0c'), ('n', '\n'),
    ('r', '\r'), ('t', '\t')].lookup char

/-- The characters of a string up to its closing quote, and what follows the quote. A high
surrogate must be followed by a low one; no other surrogate may occur. -/
def stringBody : List Char → Option (List Char × List Char)
  | [] => none
  | '"' :: rest => some ([], rest)
  | '\\' :: 'u' :: a :: b :: c :: d :: rest => do
      let unit ← hexNumber? [a, b, c, d]
      if unit < 0xD800 ∨ unit ≥ 0xE000 then
        let body ← stringBody rest
        return (Char.ofNat unit :: body.1, body.2)
      else if unit < 0xDC00 then
        match rest with
        | '\\' :: 'u' :: e :: f :: g :: h :: rest =>
            let low ← hexNumber? [e, f, g, h]
            if 0xDC00 ≤ low ∧ low < 0xE000 then
              let body ← stringBody rest
              return (Char.ofNat (0x10000 + (unit - 0xD800) * 0x400 + (low - 0xDC00)) :: body.1,
                body.2)
            else none
        | _ => none
      else none
  | '\\' :: char :: rest => do
      let escaped ← shortEscape? char
      let body ← stringBody rest
      return (escaped :: body.1, body.2)
  | char :: rest =>
      if char.toNat < 0x20 then none
      else do
        let body ← stringBody rest
        return (char :: body.1, body.2)

def isWordChar (char : Char) : Bool :=
  char.isAlphanum || char == '+' || char == '-' || char == '.'

/-- An unsigned number: an integer, or the double that a fraction or an exponent makes of it.
Superfluous zeros may not stand in front. -/
def unsigned? (negative : Bool) (text : List Char) : Option Json := do
  let number ← DecimalText.read? text
  if number.whole.length > 1 ∧ number.whole.head? = some '0' then none
  else if number.isInteger then some (.integer (signed negative number.wholeNumber))
  else some (.real (Binary64.ofDecimal (number.decimal negative)))

def scalar? (word : List Char) : Option Json :=
  if word = "null".toList then some .null
  else if word = "true".toList then some (.boolean true)
  else if word = "false".toList then some (.boolean false)
  else
    match word with
    | '-' :: rest => unsigned? true rest
    | _ => unsigned? false word

def mark? (char : Char) : Option Token :=
  if char = '[' then some .openBracket
  else if char = ']' then some .closeBracket
  else if char = '\x7b' then some .openBrace
  else if char = '\x7d' then some .closeBrace
  else if char = ',' then some .comma
  else if char = ':' then some .colon
  else none

def tokens (text : List Char) : Option (List Token) :=
  match text with
  | [] => some []
  | char :: rest =>
      if isSpace char then tokens rest
      else
        match mark? char with
        | some mark => (tokens rest).map (mark :: ·)
        | none =>
            if char = '"' then do
              let body ← stringBody rest
              if body.2.length ≤ rest.length then
                return .text (String.ofList body.1) :: (← tokens body.2)
              else none
            else if isWordChar char then do
              let value ← scalar? (char :: rest.takeWhile isWordChar)
              return .scalar value :: (← tokens (rest.dropWhile isWordChar))
            else none
termination_by text.length
decreasing_by
  · simp
  · simp
  · simp only [List.length_cons]
    omega
  · exact Nat.lt_succ_of_le (List.dropWhile_sublist _).length_le

/-- An open array or object, with what it holds so far, last first. The object may be in the
middle of a member. -/
inductive Frame where
  | array (items : List Json)
  | object (members : List (String × Json))
  | member (name : String) (members : List (String × Json))

inductive State where
  /-- A value. -/
  | value (stack : List Frame)
  /-- An item or the end of an array just opened. -/
  | firstItem (stack : List Frame)
  /-- A name or the end of an object just opened. -/
  | firstName (stack : List Frame)
  /-- A name of a further member. -/
  | name (members : List (String × Json)) (stack : List Frame)
  /-- The colon after a name. -/
  | colon (name : String) (members : List (String × Json)) (stack : List Frame)
  /-- A comma or the end of what is open. -/
  | after (stack : List Frame)
  /-- Nothing: the value is complete. -/
  | done (value : Json)

def close (value : Json) : List Frame → Option State
  | [] => some (.done value)
  | .array items :: stack => some (.after (.array (value :: items) :: stack))
  | .member name members :: stack => some (.after (.object ((name, value) :: members) :: stack))
  | .object _ :: _ => none

def begin (token : Token) (stack : List Frame) : Option State :=
  match token with
  | .openBracket => some (.firstItem (.array [] :: stack))
  | .openBrace => some (.firstName stack)
  | .text value => close (.text value) stack
  | .scalar value => close value stack
  | _ => none

def step (state : State) (token : Token) : Option State :=
  match state, token with
  | .value stack, token => begin token stack
  | .firstItem (.array [] :: stack), .closeBracket => close (.array []) stack
  | .firstItem stack, token => begin token stack
  | .firstName stack, .closeBrace => close (.object []) stack
  | .firstName stack, .text name => some (.colon name [] stack)
  | .name members stack, .text name => some (.colon name members stack)
  | .colon name members stack, .colon => some (.value (.member name members :: stack))
  | .after (.array items :: stack), .comma => some (.value (.array items :: stack))
  | .after (.array items :: stack), .closeBracket => close (.array items.reverse) stack
  | .after (.object members :: stack), .comma => some (.name members stack)
  | .after (.object members :: stack), .closeBrace => close (.object members.reverse) stack
  | _, _ => none

def read? (text : String) : Option Json := do
  match (← (← tokens text.toList).foldlM step (.value [])) with
  | .done value => some value
  | _ => none

end LicenseExpr.Json
