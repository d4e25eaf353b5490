import LicenseExpr.Json.Value
import LicenseExpr.Number.Notation
import LicenseExpr.Text.Quoted

/-!
# JSON as text

JSON is written on one line or indented, each member and item on a line of its
own. Quotes, backslashes and control characters are escaped; whether
characters beyond ASCII are is a matter of style.
-/

namespace LicenseExpr.Json

open LicenseExpr.Text LicenseExpr.Number

structure Style where
  /-- Blanks per level, or nothing to stay on one line. -/
  indent : Option Nat
  /-- Whether characters outside the printable ASCII range are escaped. -/
  asciiOnly : Bool

/-- One value on one line, in ASCII. -/
def Style.line : Style := ⟨none, true⟩

/-- Two blanks per level, all characters as they are. -/
def Style.page : Style := ⟨some 2, false⟩

def unitEscape (unit : Nat) : List Char :=
  '\\' :: 'u' :: hexDigits 4 unit

/-- The escape of a character by its code: one unit, or two beyond U+FFFF. -/
def codeUnits (char : Char) : List Char :=
  if char.toNat < 0x10000 then unitEscape char.toNat
  else
    unitEscape (0xD800 + (char.toNat - 0x10000) / 0x400) ++
      unitEscape (0xDC00 + (char.toNat - 0x10000) % 0x400)

def stringChar (style : Style) (char : Char) : List Char :=
  if char = '"' then ['\\', '"']
  else if char = '\\' then ['\\', '\\']
  else if char = '\n' then ['\\', 'n']
  else if char = '\r' then ['\\', 'r']
  else if char = '\t' then ['\\', 't']
  else if char = '\x08' then ['\\', 'b']
  else if char = '\x0c' then ['\\', 'f']
  else if char.toNat < 0x20 then unitEscape char.toNat
  else if style.asciiOnly && char.toNat ≥ 0x7F then codeUnits char
  else [char]

def stringText (style : Style) (text : String) : List Char :=
  '"' :: text.toList.flatMap (stringChar style) ++ ['"']

/-- What separates an opening bracket from the first item, and the last one from the
closing bracket. -/
def lineBreak (style : Style) (depth : Nat) : List Char :=
  match style.indent with
  | none => []
  | some width => '\n' :: List.replicate (width * depth) ' '

def separator (style : Style) (depth : Nat) : List Char :=
  match style.indent with
  | none => [',', ' ']
  | some _ => ',' :: lineBreak style depth

mutual

def write (style : Style) (depth : Nat) : Json → List Char
  | .null => "null".toList
  | .boolean value => if value then "true".toList else "false".toList
  | .integer value => signedDecimal value
  | .real value => (value.text standardLayout).toList
  | .text value => stringText style value
  | .array [] => ['[', ']']
  | .array (item :: items) =>
      '[' :: lineBreak style (depth + 1) ++ write style (depth + 1) item ++
        writeItems style depth items ++ lineBreak style depth ++ [']']
  | .object [] => ['\x7b', '\x7d']
  | .object ((name, value) :: members) =>
      '\x7b' :: lineBreak style (depth + 1) ++ stringText style name ++ [':', ' '] ++
        write style (depth + 1) value ++ writeMembers style depth members ++
        lineBreak style depth ++ ['\x7d']

def writeItems (style : Style) (depth : Nat) : List Json → List Char
  | [] => []
  | item :: items =>
      separator style (depth + 1) ++ write style (depth + 1) item ++
        writeItems style depth items

def writeMembers (style : Style) (depth : Nat) : List (String × Json) → List Char
  | [] => []
  | (name, value) :: members =>
      separator style (depth + 1) ++ stringText style name ++ [':', ' '] ++
        write style (depth + 1) value ++ writeMembers style depth members

end

def toText (style : Style) (value : Json) : String :=
  String.ofList (write style 0 value)

end LicenseExpr.Json
