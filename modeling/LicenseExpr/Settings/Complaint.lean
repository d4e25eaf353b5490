import LicenseExpr.Files.FileTree
import LicenseExpr.Settings.Setting
import LicenseExpr.Parsing

/-!
# Complaints about settings

Everything that is wrong with the settings of a run is collected, and reported
in one message. A complaint says in which place the fault is: a file, a table
of a file, a variable of the environment or a flag.
-/

namespace LicenseExpr

inductive Complaint where
  | unreadable (path : Path) (fault : OpenFault)
  | notToml (path : Path)
  | unknownKey (place : String) (key : Setting)
  | parserNotTable (place : String)
  | depthNotInteger (place : String) (value : Setting)
  | depthOutOfRange (place : String) (value : Int)
  | caseNotBoolean (place : String) (value : Setting)

namespace Complaint

def message : Complaint → String
  | .unreadable path fault => path.text ++ ": cannot read file: " ++ fault.message path
  | .notToml path => path.text ++ ": invalid TOML: the text is no TOML document"
  | .unknownKey place key => place ++ ": unknown key " ++ key.details
  | .parserNotTable place => place ++ ": \"parser\" must be a table"
  | .depthNotInteger place value =>
      place ++ ": max_depth must be an integer, got " ++ value.details
  | .depthOutOfRange place value =>
      place ++ ": max_depth must be between 1 and " ++ Text.integerText depthCap ++ ", got " ++
        Text.integerText value
  | .caseNotBoolean place value =>
      place ++ ": case_insensitive_operators must be a boolean, got " ++ value.details

/-- Whether a complaint can be put into words: the value that it shows may not hold an integer
of too many digits. -/
def isWritable : Complaint → Bool
  | .unknownKey _ key => key.isWritable
  | .depthNotInteger _ value => value.isWritable
  | .depthOutOfRange _ value => Text.hasWritableLength value
  | .caseNotBoolean _ value => value.isWritable
  | _ => true

def report (complaints : List Complaint) : String :=
  "licensekit configuration has " ++ Text.integerText complaints.length ++ " error(s):\n" ++
    "\n".intercalate (complaints.map fun complaint => "  - " ++ complaint.message)

def checkRange (place : String) (depth : Int) : Except Complaint Int :=
  if 1 ≤ depth ∧ depth ≤ depthCap then .ok depth else .error (.depthOutOfRange place depth)

/-- A depth offered as any value: it must be an integer within its range. -/
def checkDepth (place : String) : Setting → Except Complaint Int
  | .integer depth => checkRange place depth
  | value => .error (.depthNotInteger place value)

end Complaint

end LicenseExpr
