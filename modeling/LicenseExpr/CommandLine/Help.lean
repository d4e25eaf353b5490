import LicenseExpr.CommandLine.Usage

/-!
# Help texts

The usage line of each command, and what its operands and options mean.
-/

namespace LicenseExpr.CommandLine

def usageLines (command : Command) : List String :=
  match command.arity with
  | .rest =>
      ["usage: licensekit [-h] [--config CONFIG] [--max-depth MAX_DEPTH]",
        "                  [--case-insensitive-operators] [-v] [-q] [--json-log]",
        "                  \x7bparse,ids\x7d ..."]
  | .oneOrMore => ["usage: licensekit parse [-h] [--tree | --json] EXPR [EXPR ...]"]
  | .one => ["usage: licensekit ids [-h] EXPR"]

def operandLines (command : Command) : List String :=
  match command.arity with
  | .rest =>
      ["Parse license expressions into canonical form.", "", "positional arguments:",
        "  \x7bparse,ids\x7d",
        "    parse               Parse and render expressions.",
        "    ids                 List the license ids of an expression."]
  | _ => ["positional arguments:", "  EXPR"]

def optionLines (command : Command) : List String :=
  match command.arity with
  | .rest =>
      ["options:",
        "  -h, --help            show this help message and exit",
        "  --config CONFIG       Path to licensekit.toml or pyproject.toml.",
        "  --max-depth MAX_DEPTH",
        "                        Maximum parenthesis nesting depth.",
        "  --case-insensitive-operators",
        "                        Accept or/and/with in any casing.",
        "  -v, --verbose         Enable debug logging.",
        "  -q, --quiet           Only log warnings and errors.",
        "  --json-log            Emit logs as JSON lines."]
  | .oneOrMore =>
      ["options:",
        "  -h, --help  show this help message and exit",
        "  --tree      Draw each expression as a tree.",
        "  --json      Print results as JSON."]
  | .one => ["options:", "  -h, --help  show this help message and exit"]

def usageText (command : Command) : String :=
  String.join ((usageLines command).map (· ++ "\n"))

def helpText (command : Command) : String :=
  String.join
    ((usageLines command ++ [""] ++ operandLines command ++ [""] ++ optionLines command).map
      (· ++ "\n"))

end LicenseExpr.CommandLine
