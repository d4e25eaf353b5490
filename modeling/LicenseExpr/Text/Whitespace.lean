import LicenseExpr.Text.CodeRanges

/-!
# Blanks

The characters that separate words. The set is the Unicode whitespace
together with the four information separators U+001C to U+001F.
-/

namespace LicenseExpr.Text

def blankRanges : CodeRanges :=
  [(0x0009, 0x000D), (0x001C, 0x0020), (0x0085, 0x0085), (0x00A0, 0x00A0),
    (0x1680, 0x1680), (0x2000, 0x200A), (0x2028, 0x2029), (0x202F, 0x202F),
    (0x205F, 0x205F), (0x3000, 0x3000)]

def isBlank (char : Char) : Bool :=
  blankRanges.has char

def isWhitespace (char : Char) : Bool :=
  isBlank char && !(0x1C ≤ char.toNat && char.toNat ≤ 0x1F)

/-- The text without the characters of a kind at its ends. -/
def trim (isDropped : Char → Bool) (text : List Char) : List Char :=
  ((text.dropWhile isDropped).reverse.dropWhile isDropped).reverse

def trimmed (text : String) : String :=
  String.ofList (trim isBlank text.toList)

end LicenseExpr.Text
