import LicenseExpr.Log.Parsing

/-!
# Log sessions

A session is a sequence of steps that set up logging, report events and parse
expressions. Each step is taken under the most recent set-up and leads to the
records that it writes.
-/

namespace LicenseExpr.Log

inductive Step where
  | configure (choices : Choices) (environment : Environment)
  | emit (event : Event)
  | parse (options : Options) (text : String)

namespace Step

def setup (before : Setup) : Step → Setup
  | .configure choices environment => .ofChoices choices environment
  | .emit _ | .parse _ _ => before

def records (before : Setup) : Step → List Fields
  | .configure _ _ => []
  | .emit event => before.write event
  | .parse options text => parseRecords before options text

end Step

def setupAfter (before : Setup) (steps : List Step) : Setup :=
  steps.foldl Step.setup before

def session (before : Setup) : List Step → List (List Fields)
  | [] => []
  | step :: rest => step.records before :: session (step.setup before) rest

end LicenseExpr.Log
