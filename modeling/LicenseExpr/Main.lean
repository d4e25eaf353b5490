import LicenseExpr.CommandLine.Help
import LicenseExpr.CommandLine.Run

/-!
# The program

Reads the command line, looks at the parts of the file system and of the
environment that the run depends on, and prints the report of the run. The log
goes to the standard error stream, as JSON with one record to a line.
-/

namespace LicenseExpr.CommandLine

/-- The tree with what the file system has at a location. The names in `above` have been seen
to be directories. -/
def look (tree : FileTree) (above : List String) : List String → IO FileTree
  | [] => return tree
  | name :: rest => do
      let here := if name = ".." then above.dropLast else above ++ [name]
      let path := "/" ++ "/".intercalate here
      match ← (IO.FS.readBinFile path).toBaseIO with
      | .ok content => return (FileTree.file content.toList).put here tree
      | .error error =>
          match error with
          | .noFileOrDirectory .. => return tree
          | _ => look (FileTree.empty.put here tree) here rest

/-- The world of an invocation: the variables, and the files that the settings may be in. -/
def observe (invocation : Invocation) : IO World := do
  let workingDirectory := (Path.ofText (← IO.currentDir).toString).names
  let named := (invocation.choices.config.map Path.ofText).toList.map fun path =>
    (if path.slashes = 0 then workingDirectory else []) ++ path.names
  let candidates := (Path.ancestors workingDirectory).map Settings.candidate
  let files ← (candidates ++ named).foldlM (fun tree location => look tree [] location)
    FileTree.empty
  let names := [Settings.depthVariable, Settings.caseVariable, Log.Setup.truncationVariable]
  let environment ← names.filterMapM fun name => do
    return (← IO.getEnv name).map fun value => (name, value)
  return ⟨files, workingDirectory, environment⟩

def Report.print (report : Report) (choices : GlobalChoices) : IO UInt32 := do
  IO.print report.output
  if choices.jsonLog then
    for record in report.records do
      IO.eprintln (Json.toText .line (.object record))
  return report.ending.code.toUInt32

def start (arguments : List String) : IO UInt32 := do
  match Invocation.read arguments with
  | .error (.help command) =>
      IO.print (helpText command)
      return Ending.fine.code.toUInt32
  | .error (.usage command fault) =>
      IO.eprint (usageText command ++ usageMessage command fault ++ "\n")
      return Ending.refused.code.toUInt32
  | .ok invocation =>
      match invocation.run (← observe invocation) with
      | .ok report => report.print invocation.choices
      | .error error =>
          IO.eprintln error.message
          return Ending.invalidExpression.code.toUInt32

end LicenseExpr.CommandLine

def main (arguments : List String) : IO UInt32 :=
  LicenseExpr.CommandLine.start arguments
