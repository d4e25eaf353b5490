import LicenseExpr.Environment
import LicenseExpr.Settings.Document

/-!
# Layers of settings

Each option is taken from the first layer that decides it: the flags of the
command line, the environment, and the settings file. A depth that is no
integer within the range is complained about in whatever layer it stands, even
where a higher layer decides. A flag may hold an integer of too many digits, so
that the complaint about it cannot be written.
-/

namespace LicenseExpr.Settings

/-- The value of a variable without the blanks around it; empty if it is not set. -/
def trimmedValue (environment : Environment) (name : String) : String :=
  Text.trimmed (environment.valueOr name "")

structure Flags where
  maxDepth : Option Setting := none
  anyCase : Option Bool := none

def depthVariable : String := "LICENSEKIT_MAX_DEPTH"

def caseVariable : String := "LICENSEKIT_CASE_INSENSITIVE_OPERATORS"

def depthFlag : String := "--max-depth"

def environmentDepth (environment : Environment) : Except Complaint (Option Int) :=
  let text := trimmedValue environment depthVariable
  if text = "" then .ok none
  else
    match Text.readInteger text with
    | some depth => (Complaint.checkRange depthVariable depth).map some
    | none => .error (.depthNotInteger depthVariable (.text text))

def environmentCase (environment : Environment) : Option Bool :=
  let text := (trimmedValue environment caseVariable).map Char.toLower
  if text ∈ ["1", "true", "yes"] then some true
  else if text ∈ ["0", "false", "no"] then some false
  else none

def flagDepth (flags : Flags) : Except Complaint (Option Int) :=
  match flags.maxDepth with
  | none => .ok none
  | some value => (Complaint.checkDepth depthFlag value).map some

/-- The options of a run, from those of the settings file, the flags and the environment. -/
def resolve (file : Options) (flags : Flags) (environment : Environment) :
    Except LoadError Options :=
  match environmentDepth environment, flagDepth flags with
  | .ok fromEnvironment, .ok fromFlags =>
      .ok {
        maxDepth := (fromFlags <|> fromEnvironment).getD file.maxDepth
        anyCase := (flags.anyCase <|> environmentCase environment).getD file.anyCase }
  | fromEnvironment, fromFlags =>
      .error (.ofComplaints (complaintsOf fromEnvironment ++ complaintsOf fromFlags))

end LicenseExpr.Settings
