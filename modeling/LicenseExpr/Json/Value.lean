import LicenseExpr.Number.Binary64

/-!
# JSON values

Numbers without fraction and exponent are integers of any size; all others are
doubles. The members of an object keep the order in which they stand.
-/

namespace LicenseExpr

inductive Json where
  | null
  | boolean (value : Bool)
  | integer (value : Int)
  | real (value : Number.Binary64)
  | text (value : String)
  | array (items : List Json)
  | object (members : List (String × Json))

namespace Json

/-- The member of an object with the given name; nothing for any other value. -/
def member? (name : String) : Json → Option Json
  | .object members => members.lookup name
  | _ => none

end Json

end LicenseExpr
