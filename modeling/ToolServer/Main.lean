/-
The program: reads what is around it, runs and writes what comes of it.
-/
import ToolServer.Cli.Commands

namespace ToolServer.Cli

/-- Reads what is found under a path; what cannot be read counts as a directory. -/
def readStored (path : String) : IO StoredFile := do
  try return .content (← IO.FS.readBinFile path).toList
  catch
    | .noFileOrDirectory .. => return .absent
    | _ => return .directory

/-- The path of the configuration file that the arguments ask for. -/
def configPath (arguments : List String) (around : Option String) : Option String :=
  match parse arguments around with
  | .ok (.run options _) => options.config
  | _ => none

/-- The names of the variables that the program looks at. -/
def variableNames : List String :=
  configVariable :: filterVariable :: Environment.overrides.map fun o => variablePrefix ++ o.name

/-- Reads the variables that the program looks at. -/
def readVariables : IO (List (String × String)) :=
  variableNames.filterMapM fun name => return (← IO.getEnv name).map fun value => (name, value)

/-- Runs the program on what is around it. -/
def runProgram (arguments : List String) : IO Exit := do
  let found ← readVariables
  let lookup (name : String) : Option String :=
    (found.find? fun v => v.1 = name).map (·.2)
  let file ← match configPath arguments (lookup configVariable) with
    | some path => readStored path
    | none => pure .absent
  let input ← (← IO.getStdin).readBinToEnd
  return run { lookup, file := fun _ => file, input := input.toList } arguments

end ToolServer.Cli

def main (arguments : List String) : IO UInt32 := do
  let exit ← ToolServer.Cli.runProgram arguments
  (← IO.getStdout).write exit.output.toByteArray
  match exit.error with
  | some e => IO.eprintln s!"Error: {e}"
  | none => pure ()
  return exit.status.toUInt32
