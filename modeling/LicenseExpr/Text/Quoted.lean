import LicenseExpr.Text.Hexadecimal
import LicenseExpr.Text.Printable

/-!
# Quoted text

Messages show a foreign text in quotes, on one line and in printable
characters only. The quotes are single, unless the text holds a single quote
and no double one. A backslash stands before the quote in use and before a
backslash; line feed, carriage return and tab have letters of their own, and
any other unprintable character is given by its code point in hexadecimal.
-/

namespace LicenseExpr.Text

/-- An unprintable character by its code point: two, four or eight digits. -/
def codeEscape (char : Char) : List Char :=
  if char.toNat < 0x100 then '\\' :: 'x' :: hexDigits 2 char.toNat
  else if char.toNat < 0x10000 then '\\' :: 'u' :: hexDigits 4 char.toNat
  else '\\' :: 'U' :: hexDigits 8 char.toNat

def quotedChar (mark char : Char) : List Char :=
  if char = mark ∨ char = '\\' then ['\\', char]
  else if char = '\n' then ['\\', 'n']
  else if char = '\r' then ['\\', 'r']
  else if char = '\t' then ['\\', 't']
  else if isPrintable char then [char]
  else codeEscape char

def quoteMark (text : List Char) : Char :=
  if '\'' ∈ text ∧ '"' ∉ text then '"' else '\''

theorem eq_or_of_quoteMark_eq {text : List Char} {mark : Char} (same : quoteMark text = mark) :
    mark = '"' ∨ mark = '\'' := by
  unfold quoteMark at same
  split at same
  · exact .inl same.symm
  · exact .inr same.symm

def quoted (text : List Char) : List Char :=
  quoteMark text :: text.flatMap (quotedChar (quoteMark text)) ++ [quoteMark text]

def quote (text : String) : String :=
  String.ofList (quoted text.toList)

end LicenseExpr.Text
