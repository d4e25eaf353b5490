import LicenseExpr.Log.Record
import LicenseExpr.Parsing

/-!
# Logging invalid expressions

Whenever an expression turns out to be invalid, the reason goes to the log.
-/

namespace LicenseExpr

namespace SyntaxError

def event (error : SyntaxError) (expression : String) : Log.Event where
  level := .debug
  logger := "licensekit.parser"
  name := "license_expression_invalid"
  bound := []
  fields :=
    [("expression", .text expression), ("token", .integer error.index),
      ("detail", .text error.fault.detail)]

end SyntaxError

def parseRecords (setup : Log.Setup) (options : Options) (text : String) : List Log.Fields :=
  match parse? options text with
  | .error (.syntaxError error) => setup.write (error.event text)
  | _ => []

end LicenseExpr
