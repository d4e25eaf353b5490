import LicenseExpr.Settings.Complaint
import LicenseExpr.Text.Utf8

/-!
# Failures of loading

Settings fail to load with a list of complaints, or because their file is
beyond complaining: its bytes are no text, a table defines a key twice, a value
stands where only a table or a list of keys makes sense, or the complaint would
have to show an integer of too many digits. A path with a null character
cannot even be looked up, and the search for a file fails where the path of a
candidate is too long.
-/

namespace LicenseExpr

inductive LoadError where
  | refused (complaints : List Complaint)
  /-- The path holds a null character. -/
  | nullInPath
  /-- The path, or a name in it, is too long for a file that is searched for. -/
  | nameTooLong (path : Path)
  | undecodable (fault : Text.DecodeFault)
  | duplicateKey (key : String)
  | redefinedTable
  /-- A value that should have entries has none. -/
  | noEntries (value : Setting)
  /-- A value that should hold keys holds nothing. -/
  | noItems (value : Setting)
  /-- A list or table stands where a key is expected. -/
  | unusableKey (value : Setting)
  /-- Two keys cannot be brought into an order. -/
  | incomparable (first second : Setting)
  /-- An integer has too many digits to be shown. -/
  | integerTooLong

namespace LoadError

def comparison : Setting → Setting → String
  | .moment (.dateTime _ _ none), .moment (.dateTime _ _ (some _))
  | .moment (.dateTime _ _ (some _)), .moment (.dateTime _ _ none) =>
      "can't compare offset-naive and offset-aware datetimes"
  | .moment (.date _), .moment (.dateTime _ _ _)
  | .moment (.dateTime _ _ _), .moment (.date _) =>
      "can't compare datetime.datetime to datetime.date"
  | first, second =>
      "'<' not supported between instances of '" ++ first.kind ++ "' and '" ++ second.kind ++ "'"

def ofComplaints (complaints : List Complaint) : LoadError :=
  if complaints.all Complaint.isWritable then .refused complaints else .integerTooLong

def message : LoadError → String
  | .refused complaints => Complaint.report complaints
  | .nullInPath => "embedded null byte"
  | .nameTooLong path => OpenFault.nameTooLong.message path
  | .undecodable fault => fault.message
  | .duplicateKey key => "Key \"" ++ key ++ "\" already exists."
  | .redefinedTable => "Redefinition of an existing table"
  | .noEntries value => "'" ++ value.kind ++ "' object has no attribute 'get'"
  | .noItems value => "'" ++ value.kind ++ "' object is not iterable"
  | .unusableKey value => "unhashable type: '" ++ value.kind ++ "'"
  | .incomparable first second => comparison first second
  | .integerTooLong => Text.IntegerTooLong.message ⟨⟩

end LoadError

end LicenseExpr
