import LicenseExpr.CommandLine.Scan
import LicenseExpr.Text.Numeral

/-!
# Invocations

An invocation is what a command line asks for: a task, and choices that apply
to every task.
-/

namespace LicenseExpr.CommandLine

inductive Display where
  | plain
  | tree
  | json
deriving DecidableEq

inductive Task where
  | parse (display : Display) (expressions : List String)
  | ids (expression : String)
deriving DecidableEq

structure GlobalChoices where
  config : Option String := none
  /-- The depth, or nothing in its place, if one is chosen at all. -/
  maxDepth : Option (Option Int) := none
  anyCase : Bool := false
  verbose : Bool := false
  quiet : Bool := false
  jsonLog : Bool := false
deriving DecidableEq

structure Invocation where
  choices : GlobalChoices
  task : Task
deriving DecidableEq

/-! ## The commands -/

/-- Chooses a display. The two displays exclude each other. -/
def setDisplay (display : Display) (occurrence : Occurrence) : Except Stop Display :=
  match occurrence.option, display with
  | .help, _ => .error (.help parseCommand)
  | .tree, .json => .error (.usage parseCommand (.conflict .tree .json))
  | .tree, _ => .ok .tree
  | .json, .tree => .error (.usage parseCommand (.conflict .json .tree))
  | .json, _ => .ok .json
  | _, display => .ok display

def readParse (arguments : List String) : Except Stop (Task × List String) := do
  let actions : Actions (Display × List String) := {
    set := fun state occurrence => do
      let display ← setDisplay state.1 occurrence
      return (display, state.2)
    fill := fun state expressions => .ok (state.1, expressions) }
  let (state, extras) ← scanArguments parseCommand actions (.plain, []) arguments
  return (.parse state.1 state.2, extras)

def readIds (arguments : List String) : Except Stop (Task × List String) := do
  let actions : Actions String := {
    set := fun _ _ => .error (.help idsCommand)
    fill := fun _ operands => .ok (operands.headD "") }
  let (expression, extras) ← scanArguments idsCommand actions "" arguments
  return (.ids expression, extras)

def readTask : List String → Except Stop (Task × List String)
  | "parse" :: arguments => readParse arguments
  | "ids" :: arguments => readIds arguments
  | name :: _ => .error (.usage program (.unknownCommand name))
  | [] => .error (.usage program (.missingOperand program.operand))

/-! ## The program -/

def setGlobal (choices : GlobalChoices) (occurrence : Occurrence) :
    Except Stop GlobalChoices :=
  match occurrence.option with
  | .help => .error (.help program)
  | .config => .ok { choices with config := occurrence.value }
  | .maxDepth =>
      match occurrence.value with
      | none => .ok { choices with maxDepth := some none }
      | some text =>
          match Text.readInteger text with
          | some depth => .ok { choices with maxDepth := some (some depth) }
          | none => .error (.usage program (.notInteger .maxDepth text))
  | .anyCase => .ok { choices with anyCase := true }
  | .verbose => .ok { choices with verbose := true }
  | .quiet => .ok { choices with quiet := true }
  | .jsonLog => .ok { choices with jsonLog := true }
  | .tree | .json => .ok choices

/-- The options of the program are chosen before the task, and the task is read as a whole. -/
def programActions : Actions (GlobalChoices × Option (Task × List String)) where
  set state occurrence := do
    let choices ← setGlobal state.1 occurrence
    return (choices, state.2)
  fill state operands := do
    let task ← readTask operands
    return (state.1, some task)

/-- What the arguments of the program ask for. No argument may be left over. -/
def Invocation.read (arguments : List String) : Except Stop Invocation := do
  let ((choices, task), extras) ← scanArguments program programActions ({}, none) arguments
  match task with
  | none => .error (.usage program (.missingOperand program.operand))
  | some (task, more) =>
      if extras ++ more = [] then .ok ⟨choices, task⟩
      else .error (.usage program (.unrecognized (extras ++ more)))

end LicenseExpr.CommandLine
