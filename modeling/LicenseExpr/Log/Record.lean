import LicenseExpr.Environment
import LicenseExpr.Log.Truncation

/-!
# Log records

Events are written to the log as records. Once logging is set up, an event is
written if it is important enough; each set-up replaces the one before it.
Before that no event becomes a record: what matters enough to be shown anyway
appears as a line of plain text.
-/

namespace LicenseExpr.Log

inductive Level where
  | debug
  | info
  | warning
  | error
  | critical
deriving DecidableEq

namespace Level

def name : Level → String
  | .debug => "debug"
  | .info => "info"
  | .warning => "warning"
  | .error => "error"
  | .critical => "critical"

/-- A number that is greater for more important levels. -/
def severity : Level → Nat
  | .debug => 10
  | .info => 20
  | .warning => 30
  | .error => 40
  | .critical => 50

end Level

/-- Where an event goes. -/
inductive Outlet where
  | record
  /-- A line that holds the text of the event, for want of a set-up. -/
  | plainLine
  | nowhere
deriving DecidableEq

structure Setup where
  /-- The least level that is written as a record; there is none before a set-up. -/
  threshold : Option Level
  /-- Whether long texts are cut. -/
  truncating : Bool
deriving DecidableEq

structure Choices where
  verbose : Bool := false
  quiet : Bool := false
  truncateValues : Bool := true

structure Event where
  level : Level
  logger : String
  name : String
  /-- What the logger adds to all its events; the fields of the event take precedence. -/
  bound : Fields
  fields : Fields

namespace Setup

def initial : Setup :=
  ⟨none, true⟩

/-- The variable that turns truncation off by the value `0`. -/
def truncationVariable : String := "LICENSEKIT_TRUNCATE_LOG_VALUES"

/-- Logging as it is chosen: to be quiet outweighs being verbose, and the environment can only
turn truncation off. -/
def ofChoices (choices : Choices) (environment : Environment) : Setup where
  threshold :=
    if choices.quiet then some .warning else if choices.verbose then some .debug else some .info
  truncating := choices.truncateValues && environment.valueOr truncationVariable "1" != "0"

/-- Where the events of a level go. Without a set-up, warnings and what is worse are shown. -/
def outlet (setup : Setup) (level : Level) : Outlet :=
  match setup.threshold with
  | some threshold => if threshold.severity ≤ level.severity then .record else .nowhere
  | none => if Level.warning.severity ≤ level.severity then .plainLine else .nowhere

def writes (setup : Setup) (level : Level) : Bool :=
  setup.outlet level = .record

/-- Fields with their long texts cut, if that is chosen. -/
def shorten (setup : Setup) (fields : Fields) : Fields :=
  if setup.truncating then fields.truncate else fields

end Setup

def Event.allFields (event : Event) : Fields :=
  (event.bound.setAll event.fields).setAll
    [(eventKey, .text event.name), ("level", .text event.level.name),
      ("logger", .text event.logger)]

def Setup.write (setup : Setup) (event : Event) : List Fields :=
  if setup.writes event.level then [setup.shorten event.allFields] else []

end LicenseExpr.Log
