import FullText.CommandLine.Run

/-!
# The program

Reads the environment variables of the settings, runs the command line and prints what comes of it.
-/

open FullText FullText.CommandLine

/-- The environment variables that settings are read from. -/
def readEnvironment : IO Environment :=
  SettingField.all.filterMapM fun f => do
    let name := f.variableName.toUpper
    return (← IO.getEnv name).map fun value => (name, value)

def main (args : List String) : IO UInt32 := do
  let outcome := CommandLine.run (← readEnvironment) args
  IO.print outcome.output
  IO.eprint outcome.errors
  return UInt32.ofNat outcome.exitCode
