import LicenseExpr.Number.Notation
import LicenseExpr.Settings.Moment
import LicenseExpr.Text.Quoted

/-!
# Values of settings

What a settings document, or a caller, offers as the value of a setting may be
of any kind; a message about a wrong value shows it in full.
-/

namespace LicenseExpr

/-- A value offered for a setting. The entries of a table keep their order. -/
inductive Setting where
  | null
  | boolean (value : Bool)
  | integer (value : Int)
  | real (value : Number.Binary64)
  | text (value : String)
  | moment (value : Moment)
  | list (items : List Setting)
  | table (entries : List (String × Setting))

namespace Setting

def kind : Setting → String
  | .null => "NoneType"
  | .boolean _ => "bool"
  | .integer _ => "int"
  | .real _ => "float"
  | .text _ => "str"
  | .moment value => value.kind
  | .list _ => "list"
  | .table _ => "dict"

mutual

def details : Setting → String
  | .null => "None"
  | .boolean value => if value then "True" else "False"
  | .integer value => Text.integerText value
  | .real value => value.text Number.standardLayout
  | .text value => Text.quote value
  | .moment value => value.details
  | .list items => "[" ++ ", ".intercalate (itemDetails items) ++ "]"
  | .table entries => "\x7b" ++ ", ".intercalate (entryDetails entries) ++ "\x7d"

def itemDetails : List Setting → List String
  | [] => []
  | item :: items => item.details :: itemDetails items

def entryDetails : List (String × Setting) → List String
  | [] => []
  | (key, value) :: entries => (Text.quote key ++ ": " ++ value.details) :: entryDetails entries

end

mutual

/-- Whether every integer in a value is short enough to be written out. -/
def isWritable : Setting → Bool
  | .integer value => Text.hasWritableLength value
  | .list items => itemsAreWritable items
  | .table entries => entriesAreWritable entries
  | _ => true

/-- Whether every integer in the values of a list is short enough to be written out. -/
def itemsAreWritable : List Setting → Bool
  | [] => true
  | item :: items => item.isWritable && itemsAreWritable items

/-- Whether every integer in the entries of a table is short enough to be written out. -/
def entriesAreWritable : List (String × Setting) → Bool
  | [] => true
  | (_, value) :: entries => value.isWritable && entriesAreWritable entries

end

end Setting

end LicenseExpr
