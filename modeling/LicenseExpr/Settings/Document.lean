import LicenseExpr.Settings.UnknownKeys
import LicenseExpr.Toml.Document

/-!
# Settings documents

The settings of the parser stand in the table `parser` of a settings document.
In a file named `pyproject.toml`, which holds the settings of many programs, the
document is only the section `tool.licensekit`. Every key may be left out.
-/

namespace LicenseExpr.Settings

def sharedFileName : String := "pyproject.toml"

def complaintsOf {Value : Type} : Except Complaint Value → List Complaint
  | .ok _ => []
  | .error complaint => [complaint]

def depthOf (place : String) (entries : List (String × Setting)) : Except Complaint Int :=
  match entries.lookup "max_depth" with
  | none => .ok ({} : Options).maxDepth
  | some value => Complaint.checkDepth place value

def anyCaseOf (place : String) (entries : List (String × Setting)) : Except Complaint Bool :=
  match entries.lookup "case_insensitive_operators" with
  | none => .ok ({} : Options).anyCase
  | some (.boolean value) => .ok value
  | some value => .error (.caseNotBoolean place value)

/-- The complaints about keys of a parser table that mean nothing. -/
def strangersOf (place : String) (entries : List (String × Setting)) : List Complaint :=
  (unknownNames ["max_depth", "case_insensitive_operators"] (keys entries)).map fun key =>
    .unknownKey place (.text key)

/-- The options that a parser table sets. All complaints about the table are collected. -/
def ofParserTable (place : String) (entries : List (String × Setting)) :
    Except LoadError Options :=
  match strangersOf place entries, depthOf place entries, anyCaseOf place entries with
  | [], .ok depth, .ok anyCase => .ok ⟨depth, anyCase⟩
  | strangers, depth, anyCase =>
      .error (.ofComplaints (strangers ++ complaintsOf depth ++ complaintsOf anyCase))

def ofSection (place : String) (value : Setting) : Except LoadError Options :=
  match unknownKeys ["parser"] value with
  | .error error => .error error
  | .ok [] =>
      match value with
      | .table entries =>
          match (entries.lookup "parser").getD (.table []) with
          | .table parser => ofParserTable (place ++ " [parser]") parser
          | _ => .error (.refused [.parserNotTable place])
      | value => .error (.noEntries value)
  | .ok unknown => .error (.ofComplaints (unknown.map (.unknownKey place)))

/-- The options that a document sets, which was read from the file at a path. -/
def ofDocument (path : Path) (document : List (String × Setting)) : Except LoadError Options :=
  if path.lastName = sharedFileName then
    match (document.lookup "tool").getD (.table []) with
    | .table tools =>
        ofSection (path.text ++ " [tool.licensekit]")
          ((tools.lookup "licensekit").getD (.table []))
    | value => .error (.noEntries value)
  else ofSection path.text (.table document)

def documentOf (path : Path) (content : List UInt8) :
    Except LoadError (List (String × Setting)) :=
  match Text.decode content with
  | .error fault => .error (.undecodable fault)
  | .ok text =>
      match Toml.read (String.ofList (Text.unifyLineEnds text)) with
      | .ok document => .ok document
      | .error .malformed => .error (.refused [.notToml path])
      | .error (.duplicateKey key) => .error (.duplicateKey key)
      | .error .redefinedTable => .error .redefinedTable

def load (tree : FileTree) (workingDirectory : List String) (path : Path) :
    Except LoadError Options :=
  if path.holdsNull then .error .nullInPath
  else
    match tree.read workingDirectory path with
    | .error fault => .error (.refused [.unreadable path fault])
    | .ok content =>
        match documentOf path content with
        | .error error => .error error
        | .ok document => ofDocument path document

end LicenseExpr.Settings
