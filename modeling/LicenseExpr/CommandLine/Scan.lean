import LicenseExpr.CommandLine.Word

/-!
# Acting upon the words of a command

The words are taken from left to right. An option is acted upon with its value;
the operands are taken as soon as the first of them is met, as many as stand
there together. What is left over is returned.
-/

namespace LicenseExpr.CommandLine

structure Occurrence where
  option : CommandOption
  value : Option String

structure Cluster where
  occurrences : List Occurrence
  /-- An option whose value must be the next argument. -/
  awaiting : Option CommandOption

namespace Cluster

/-- The cluster with an option without a value in front. -/
def push (option : CommandOption) (cluster : Cluster) : Cluster :=
  { cluster with occurrences := ⟨option, none⟩ :: cluster.occurrences }

def bare (option : CommandOption) : Cluster :=
  if option.takesValue then ⟨[], some option⟩ else ⟨[⟨option, none⟩], none⟩

/-- The value that an attached text gives an option: two dashes give it none. -/
def attachedValue (text : List Char) : Option String :=
  if text = ['-', '-'] then none else some (String.ofList text)

/-- An option with a text attached: its value if it takes one, and otherwise, behind a short
name, more short options. -/
def attached (command : Command) (option : CommandOption) (isShort : Bool)
    (text : List Char) : Except UsageFault Cluster :=
  if option.takesValue then .ok ⟨[⟨option, attachedValue text⟩], none⟩
  else
    match text with
    | [] => .error (.needlessValue option "")
    | letter :: rest =>
        match if isShort then command.option? ['-', letter] else none with
        | none => .error (.needlessValue option (String.ofList (letter :: rest)))
        | some next =>
            if rest = [] then .ok (push option (bare next.option))
            else (attached command next.option true rest).map (push option)

/-- What an argument says that was read as an option. -/
def ofReading (command : Command) (option : CommandOption) (isShort : Bool) :
    Option (List Char) → Except UsageFault Cluster
  | none => .ok (bare option)
  | some text => attached command option isShort text

end Cluster

/-- How many of the words after the first belong to the operands, if the first is an operand
or the separator. The separator alone is no operand. -/
def Arity.count? (arity : Arity) (first : Word) (rest : List Word) : Option Nat :=
  if first.isSeparator && rest.isEmpty then none
  else
    some (match arity with
      | .one => if first.isSeparator then 1 else (rest.takeWhile (·.isSeparator)).length
      | .oneOrMore => (rest.takeWhile (·.isOperand)).length
      | .rest => rest.length)

/-- The texts of the words taken as operands. The first two dashes among them are dropped,
unless the operand is a command with its arguments. -/
def Arity.values (arity : Arity) (words : List Word) : List String :=
  if arity = .rest then words.map Word.text else (words.map Word.text).erase "--"

structure Scan (State : Type) where
  state : State
  /-- Whether the operands have been met. -/
  filled : Bool
  /-- The arguments that are left over. -/
  extras : List String

structure Actions (State : Type) where
  set : State → Occurrence → Except Stop State
  fill : State → List String → Except Stop State

def scanWords {State : Type} (command : Command) (actions : Actions State)
    (scan : Scan State) (words : List Word) : Except Stop (Scan State) :=
  match words with
  | [] => .ok scan
  | ⟨text, reading⟩ :: rest =>
      match reading with
      | .ofOption option isShort attached =>
          match Cluster.ofReading command option isShort attached with
          | .error fault => .error (.usage command fault)
          | .ok cluster =>
              match cluster.awaiting with
              | none => do
                  let state ← cluster.occurrences.foldlM actions.set scan.state
                  scanWords command actions { scan with state } rest
              | some option =>
                  match rest with
                  | ⟨value, .operand⟩ :: rest => do
                      let occurrences := cluster.occurrences ++ [⟨option, some value⟩]
                      let state ← occurrences.foldlM actions.set scan.state
                      scanWords command actions { scan with state } rest
                  | _ => .error (.usage command (.missingValue option))
      | .unknown => scanWords command actions { scan with extras := scan.extras ++ [text] } rest
      | reading =>
          match if scan.filled then none else command.arity.count? ⟨text, reading⟩ rest with
          | none => scanWords command actions { scan with extras := scan.extras ++ [text] } rest
          | some count => do
              let taken := ⟨text, reading⟩ :: rest.take count
              let state ← actions.fill scan.state (command.arity.values taken)
              scanWords command actions { scan with state, filled := true } (rest.drop count)
termination_by words.length
decreasing_by
  all_goals simp only [List.length_cons, List.length_drop]
  all_goals omega

/-- The state that the arguments of a command lead to, and the arguments left over. -/
def scanArguments {State : Type} (command : Command) (actions : Actions State) (state : State)
    (arguments : List String) : Except Stop (State × List String) :=
  match readArguments command arguments with
  | .error fault => .error (.usage command fault)
  | .ok words =>
      match scanWords command actions ⟨state, false, []⟩ words with
      | .error stop => .error stop
      | .ok scan =>
          if scan.filled then .ok (scan.state, scan.extras)
          else .error (.usage command (.missingOperand command.operand))

end LicenseExpr.CommandLine
