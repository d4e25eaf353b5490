import LicenseExpr.Json.Value

/-!
# Fields of log records

A log record is a list of named values in which no name occurs twice.
-/

namespace LicenseExpr.Log

abbrev Fields := List (String × Json)

namespace Fields

/-- The fields with one of them set; a field that is there already keeps its place. -/
def set (name : String) (value : Json) : Fields → Fields
  | [] => [(name, value)]
  | field :: rest =>
      if field.1 = name then (name, value) :: rest else field :: set name value rest

def setAll (fields others : Fields) : Fields :=
  others.foldl (fun fields other => set other.1 other.2 fields) fields

end Fields

end LicenseExpr.Log
