import LicenseExpr.Text.ColumnWidth

/-!
# Lines on a terminal

Text is printed without the control characters that would move the cursor,
and with each tab replaced by blanks up to the next multiple of eight columns.
-/

namespace LicenseExpr.Text

/-- Bell, backspace, vertical tab, form feed and carriage return. -/
def movesCursor (char : Char) : Bool :=
  char.toNat == 7 || char.toNat == 8 || char.toNat == 11 || char.toNat == 12 ||
    char.toNat == 13

/-- The text without the characters that would move the cursor. -/
def withoutControls (text : List Char) : List Char :=
  text.filter (!movesCursor ·)

/-- The columns from a cursor to the next multiple of eight, none if it stands on one. -/
def missingColumns (cursor : Cursor) : Nat :=
  (8 - cursor.column % 8) % 8

/-- The text with each tab replaced by a blank and as many more as reach the next multiple of
eight columns, starting from a cursor. -/
def expandTabs : (cursor : Cursor) → List Char → List Char
  | _, [] => []
  | cursor, char :: rest =>
      if char = '\n' then char :: expandTabs {} rest
      else if char = '\t' then
        let behind := cursor.advance ' '
        let missing := missingColumns behind
        ' ' :: List.replicate missing ' ' ++ expandTabs { column := behind.column + missing } rest
      else char :: expandTabs (cursor.advance char) rest

/-- What printing a text puts on the terminal, its line feed included. -/
def printedLine (text : String) : String :=
  String.ofList (expandTabs {} (withoutControls text.toList) ++ ['\n'])

end LicenseExpr.Text
