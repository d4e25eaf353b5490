import LicenseExpr.CommandLine.Usage
import LicenseExpr.Text.DecimalDigit

/-!
# The words of a command line

Every argument is read as an option or as an operand before any of them is
acted upon. A long option may be shortened as long as one name fits, a value
may be attached by an equals sign, and short options may be joined. Two dashes
end the options; what looks like a negative number, or holds a blank, is an
operand unless it is an option.
-/

namespace LicenseExpr.CommandLine

inductive Reading where
  | operand
  /-- The two dashes after which there are only operands. -/
  | separator
  /-- An option, by its short name or a long one, perhaps with a text attached to the name. -/
  | ofOption (option : CommandOption) (isShort : Bool) (attached : Option (List Char))
  /-- It has the form of an option but is none. -/
  | unknown
deriving DecidableEq

structure Word where
  text : String
  reading : Reading
deriving DecidableEq

namespace Word

def operand (text : String) : Word :=
  ⟨text, .operand⟩

def separator : Word :=
  ⟨"--", .separator⟩

def isSeparator (word : Word) : Bool :=
  word.reading = .separator

def isOperand (word : Word) : Bool :=
  word.reading = .operand || word.isSeparator

end Word

structure NamedOption where
  option : CommandOption
  name : List Char

namespace Command

def namedOptions (command : Command) : List NamedOption :=
  command.options.flatMap fun option => option.names.map fun name => ⟨option, name.toList⟩

def option? (command : Command) (name : List Char) : Option NamedOption :=
  command.namedOptions.find? fun named => named.name = name

end Command

def isShortName : List Char → Bool
  | '-' :: '-' :: _ => false
  | _ => true

def cutAtMark (text : List Char) : List Char × Option (List Char) :=
  match text.dropWhile (· != '=') with
  | [] => (text, none)
  | _ :: value => (text.takeWhile (· != '='), some value)

/-- Whether a text is one or more digits; a line feed may follow the last. -/
def isDigits (text : List Char) : Bool :=
  let isDigit (char : Char) : Bool := (Text.digitValue? char).isSome
  text.any isDigit && [[], ['\n']].contains (text.dropWhile isDigit)

/-- Whether a text looks like a negative number: a dash and digits, with at most one point
before the last of them. -/
def looksNegative : List Char → Bool
  | '-' :: rest =>
      isDigits rest ||
        match rest.dropWhile fun char => (Text.digitValue? char).isSome with
        | '.' :: fraction => isDigits fraction
        | _ => false
  | _ => false

/-- The readings of an argument whose name is shortened, which only long names may be, or is
a short one with something joined to it. -/
def inexactReadings (command : Command) (argument : List Char) :
    List (NamedOption × Reading) :=
  if isShortName argument then
    (command.namedOptions.filter (·.name = argument.take 2)).map fun named =>
      (named, .ofOption named.option true (some (argument.drop 2)))
  else
    let cut := cutAtMark argument
    (command.namedOptions.filter (cut.1.isPrefixOf ·.name)).map fun named =>
      (named, .ofOption named.option false cut.2)

/-- The reading of an argument that begins with a dash, is more than the dash, and is not the
exact name of an option. -/
def readInexact (command : Command) (argument : String) : Except UsageFault Reading :=
  match inexactReadings command argument.toList with
  | [] =>
      if looksNegative argument.toList || ' ' ∈ argument.toList then .ok .operand
      else .ok .unknown
  | [(_, reading)] => .ok reading
  | readings =>
      .error (.ambiguous argument (readings.map fun reading => String.ofList reading.1.name))

def readArgument (command : Command) (argument : String) : Except UsageFault Reading :=
  if argument.toList.head? ≠ some '-' ∨ argument = "-" then .ok .operand
  else
    match command.option? argument.toList with
    | some named => .ok (.ofOption named.option (isShortName named.name) none)
    | none =>
        let cut := cutAtMark argument.toList
        match command.option? cut.1 with
        | some named => .ok (.ofOption named.option (isShortName named.name) cut.2)
        | none => readInexact command argument

def readArguments (command : Command) : List String → Except UsageFault (List Word)
  | [] => .ok []
  | argument :: rest =>
      if argument = "--" then .ok (.separator :: rest.map .operand)
      else do
        let reading ← readArgument command argument
        let words ← readArguments command rest
        return ⟨argument, reading⟩ :: words

end LicenseExpr.CommandLine
