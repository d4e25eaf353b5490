import LicenseExpr.CommandLine.Invocation
import LicenseExpr.Json.Printer
import LicenseExpr.Log.Parsing
import LicenseExpr.Settings.Discovery
import LicenseExpr.Settings.Layers
import LicenseExpr.Tree.Leaves
import LicenseExpr.Tree.Outline

/-!
# Runs

A run carries out an invocation in a world of files and variables. It settles
the options of the parser first; with complaints about them it ends at once.
What it prints, what it logs and how it ends make up its report.
-/

namespace LicenseExpr.CommandLine

/-- What a run depends on besides its invocation. -/
structure World where
  files : FileTree
  workingDirectory : List String
  environment : Environment

inductive Ending where
  /-- Every expression is valid. -/
  | fine
  /-- There is an invalid expression. -/
  | invalidExpression
  /-- The settings are wrong, or the command line is. -/
  | refused
deriving DecidableEq

def Ending.code : Ending → Nat
  | .fine => 0
  | .invalidExpression => 1
  | .refused => 2

structure Report where
  ending : Ending
  output : String
  records : List Log.Fields

/-! ## Options -/

def GlobalChoices.logSetup (choices : GlobalChoices) (environment : Environment) : Log.Setup :=
  .ofChoices { verbose := choices.verbose, quiet := choices.quiet } environment

/-- The value of a chosen depth; nothing counts as an empty list. -/
def depthSetting : Option Int → Setting
  | some depth => .integer depth
  | none => .list []

def GlobalChoices.flags (choices : GlobalChoices) : Settings.Flags where
  maxDepth := choices.maxDepth.map depthSetting
  anyCase := if choices.anyCase then some true else none

/-- The settings file of a run: the one that is named, or else the nearest one. -/
def chooseFile (world : World) (choices : GlobalChoices) : Except LoadError (Option Path) :=
  match choices.config with
  | some text => .ok (some (Path.ofText text))
  | none => Settings.locate world.files world.workingDirectory (Path.ofText "")

def settingsFile? (world : World) (choices : GlobalChoices) : Option Path :=
  match chooseFile world choices with
  | .ok file => file
  | .error _ => none

theorem settingsFile?_of_chooseFile {world : World} {choices : GlobalChoices}
    {file : Option Path} (chosen : chooseFile world choices = .ok file) :
    settingsFile? world choices = file := by
  rw [settingsFile?, chosen]

def fileOptions (world : World) : Option Path → Except LoadError Options
  | none => .ok {}
  | some path => Settings.load world.files world.workingDirectory path

def options (world : World) (choices : GlobalChoices) : Except LoadError Options :=
  match chooseFile world choices with
  | .error error => .error error
  | .ok path =>
      match fileOptions world path with
      | .error error => .error error
      | .ok file => Settings.resolve file choices.flags world.environment

def loadedEvent (path : Path) : Log.Event where
  level := .debug
  logger := "licensekit.cli"
  name := "config_loaded"
  bound := []
  fields := [("path", .text path.text)]

def settingsRecords (world : World) (choices : GlobalChoices) : List Log.Fields :=
  match settingsFile? world choices with
  | none => []
  | some path =>
      match Settings.load world.files world.workingDirectory path with
      | .ok _ => (choices.logSetup world.environment).write (loadedEvent path)
      | .error _ => []

/-! ## Tasks -/

/-- An expression of a task, as it is given and as it is parsed. -/
structure Result where
  text : String
  parsed : Expression

/-- The results of the expressions of a task, in their order. -/
def results (options : Options) (expressions : List String) :
    Except Text.IntegerTooLong (List Result) :=
  expressions.mapM fun text => (parse options text).map (Result.mk text)

def Result.object (result : Result) : Json :=
  .object [("expression", .text result.text), ("valid", .boolean !result.parsed.isInvalid),
    ("rendered", .text result.parsed.render),
    ("license_ids", .array (result.parsed.licenseIds.map .text))]

def display (results : List Result) : Display → String
  | .plain => String.join (results.map fun result => Text.printedLine result.parsed.render)
  | .tree =>
      String.join (results.map fun result => (Outline.ofExpression result.parsed).drawing)
  | .json =>
      let items := Json.array (results.map Result.object)
      String.ofList (Text.withoutControls (Json.write .page 0 items) ++ ['\n'])

def parsedEvent (total invalid : Nat) : Log.Event where
  level := .info
  logger := "licensekit.cli"
  name := "expressions_parsed"
  bound := []
  fields := [("total", .integer total), ("invalid", .integer invalid)]

def runParse (setup : Log.Setup) (options : Options) (shown : Display)
    (expressions : List String) : Except Text.IntegerTooLong Report :=
  match results options expressions with
  | .error failure => .error failure
  | .ok results =>
      let invalid := results.countP (·.parsed.isInvalid)
      .ok {
        ending := if invalid = 0 then .fine else .invalidExpression
        output := display results shown
        records :=
          expressions.flatMap (parseRecords setup options) ++
            setup.write (parsedEvent results.length invalid) }

def runIds (setup : Log.Setup) (options : Options) (expression : String) :
    Except Text.IntegerTooLong Report :=
  match parse options expression with
  | .error failure => .error failure
  | .ok .invalid =>
      .ok {
        ending := .invalidExpression
        output := Text.printedLine ("error: invalid license expression: " ++ expression)
        records := parseRecords setup options expression }
  | .ok (.valid tree) =>
      .ok {
        ending := .fine
        output := String.join ((Expression.valid tree).licenseIds.map Text.printedLine)
        records := parseRecords setup options expression }

def Task.run (setup : Log.Setup) (options : Options) : Task → Except Text.IntegerTooLong Report
  | .parse shown expressions => runParse setup options shown expressions
  | .ids expression => runIds setup options expression

def refusal (complaints : List Complaint) : Report where
  ending := .refused
  output := Text.printedLine ("error: " ++ Complaint.report complaints)
  records := []

/-- Carries out an invocation. Settings that are beyond complaining make it fail. -/
def Invocation.run (world : World) (invocation : Invocation) : Except LoadError Report :=
  let before := settingsRecords world invocation.choices
  let after (report : Report) : Report := { report with records := before ++ report.records }
  match options world invocation.choices with
  | .ok options =>
      match invocation.task.run (invocation.choices.logSetup world.environment) options with
      | .ok report => .ok (after report)
      | .error _ => .error .integerTooLong
  | .error (.refused complaints) => .ok (after (refusal complaints))
  | .error error => .error error

end LicenseExpr.CommandLine
