import AlertSync.Json.Printer
import AlertSync.Settings.Usage

/-!
# The program

Reads the settings from the arguments and the environment, and shows them if they have no flaw.
-/

namespace AlertSync.CommandLine

/-- The variables of the environment that tell settings. -/
def readEnvironment : IO (List (String × String)) :=
  Setting.all.filterMapM fun x => do
    return (← IO.getEnv x.variableName).map fun value => (x.variableName, value)

/-- Tells why there are no settings, and the exit code. -/
def report (r : Refusal) : IO UInt32 := do
  if r.isAnswer then
    IO.println r.message
    return 0
  else
    IO.eprintln ("error: " ++ r.message)
    return 2

/-- Shows the settings, or what is wrong with them. -/
def start (s : Settings) : IO UInt32 := do
  match s.validate with
  | .ok s =>
    IO.println (Json.text s.tree)
    return 0
  | .error e =>
    IO.eprintln ("Error: invalid configuration: " ++ e.message)
    return 1

/-- Runs the program on its arguments. -/
def runWith (arguments : List String) : IO UInt32 := do
  let environment ← readEnvironment
  match read arguments (fun name => environment.lookup name) with
  | .ok s => start s
  | .error r => report r

end AlertSync.CommandLine

/-- The entry of the program. -/
def main (arguments : List String) : IO UInt32 := AlertSync.CommandLine.runWith arguments
