import LicenseExpr.Text.Quoted

/-!
# Options and usage errors

The options of the program, the commands that they belong to, and what can be
wrong with a command line.
-/

namespace LicenseExpr.CommandLine

inductive CommandOption where
  | help
  | config
  | maxDepth
  | anyCase
  | verbose
  | quiet
  | jsonLog
  | tree
  | json
deriving DecidableEq

namespace CommandOption

/-- The names of an option; a short one comes first. -/
def names : CommandOption → List String
  | .help => ["-h", "--help"]
  | .config => ["--config"]
  | .maxDepth => ["--max-depth"]
  | .anyCase => ["--case-insensitive-operators"]
  | .verbose => ["-v", "--verbose"]
  | .quiet => ["-q", "--quiet"]
  | .jsonLog => ["--json-log"]
  | .tree => ["--tree"]
  | .json => ["--json"]

def takesValue : CommandOption → Bool
  | .config | .maxDepth => true
  | _ => false

def title (option : CommandOption) : String :=
  "/".intercalate option.names

end CommandOption

inductive Arity where
  | one
  | oneOrMore
  /-- One operand and everything after it, options included. -/
  | rest
deriving DecidableEq

structure Command where
  title : String
  options : List CommandOption
  operand : String
  arity : Arity
deriving DecidableEq

/-- The program itself, whose operand is a command with its arguments. -/
def program : Command where
  title := "licensekit"
  options := [.help, .config, .maxDepth, .anyCase, .verbose, .quiet, .jsonLog]
  operand := "command"
  arity := .rest

def parseCommand : Command where
  title := "licensekit parse"
  options := [.help, .tree, .json]
  operand := "EXPR"
  arity := .oneOrMore

def idsCommand : Command where
  title := "licensekit ids"
  options := [.help]
  operand := "EXPR"
  arity := .one

inductive UsageFault where
  | ambiguous (argument : String) (names : List String)
  | missingValue (option : CommandOption)
  | needlessValue (option : CommandOption) (value : String)
  | notInteger (option : CommandOption) (value : String)
  | conflict (option other : CommandOption)
  | unknownCommand (name : String)
  | missingOperand (operand : String)
  | unrecognized (arguments : List String)
deriving DecidableEq

namespace UsageFault

def description : UsageFault → String
  | .ambiguous argument names =>
      "ambiguous option: " ++ argument ++ " could match " ++ ", ".intercalate names
  | .missingValue option => "argument " ++ option.title ++ ": expected one argument"
  | .needlessValue option value =>
      "argument " ++ option.title ++ ": ignored explicit argument " ++ Text.quote value
  | .notInteger option value =>
      "argument " ++ option.title ++ ": invalid int value: " ++ Text.quote value
  | .conflict option other =>
      "argument " ++ option.title ++ ": not allowed with argument " ++ other.title
  | .unknownCommand name =>
      "argument command: invalid choice: " ++ Text.quote name ++ " (choose from 'parse', 'ids')"
  | .missingOperand operand => "the following arguments are required: " ++ operand
  | .unrecognized arguments => "unrecognized arguments: " ++ " ".intercalate arguments

end UsageFault

/-- Why a command line leads to no run: it is wrong, or it asks for help. -/
inductive Stop where
  | usage (command : Command) (fault : UsageFault)
  | help (command : Command)
deriving DecidableEq

def usageMessage (command : Command) (fault : UsageFault) : String :=
  command.title ++ ": error: " ++ fault.description

end LicenseExpr.CommandLine
