import FullText.CommandLine.Compile
import FullText.CommandLine.Console
import FullText.CommandLine.Report
import FullText.Plan.Compile
import FullText.Settings
import FullText.Sql.AdHoc
import FullText.Text.Uppercase

/-!
# Running the command line

`run` takes the environment and the arguments to the outcome: what is printed and the exit code, a usage error, or the
faults of settings that were found after the arguments had been read.

The level of the log is checked before the arguments of the command are read, but after the command itself is known.
Log records, help pages and the wrapping of long lines on a console have no part in an outcome.
-/

namespace FullText.CommandLine

open Text

/-- What comes of a run. -/
inductive Outcome where
  | finished (exitCode : Nat) (output errors : String)
  | misused (error : UsageError)
  /-- Settings were refused. -/
  | refused (faults : List Fault)
  deriving Inhabited

namespace Outcome

/-- A run that prints its result. -/
def printed (output : String) : Outcome := .finished 0 output ""

/-- A run that reports a failure. -/
def failed (message : String) : Outcome := .finished 1 "" (errorLine message)

/-- The exit code of the program. -/
def exitCode : Outcome → Nat
  | .finished exitCode _ _ => exitCode
  | .misused _ => 2
  | .refused _ => 1

/-- What the program prints. -/
def output : Outcome → String
  | .finished _ output _ => output
  | .misused _ | .refused _ => ""

/-- What the program prints as errors. -/
def errors : Outcome → String
  | .finished _ _ errors => errors
  | .misused e => e.message ++ "\n"
  | .refused faults => faultReport faults ++ "\n"

end Outcome

/-! ## Options before the command -/

/-- The options that stand before the command. -/
inductive CommonOption where
  | logLevel | version
  deriving DecidableEq, Repr, Inhabited

def CommonOption.declared : List (OptionName CommonOption) :=
  [{ name := "--log-level", option := .logLevel },
   { name := "--version", option := .version, flag := some true },
   { name := "-v", option := .version, flag := some true }]

/-- The line that tells the version. -/
def versionLine : String := "pg-search-scope version: 0.1.0\n"

/-- The levels of the log. -/
def logLevels : List String := ["TRACE", "DEBUG", "INFO", "SUCCESS", "WARNING", "ERROR", "CRITICAL"]

/-- The message on a level of the log that does not exist. -/
def levelMessage (level : String) : Option String :=
  let level := uppercase level
  if logLevels.contains level then none else some ("Level '" ++ level ++ "' does not exist")

/-- What is wrong with the level of the log: the one that is given, or else the one of the settings. -/
def logLevelMessage (env : Environment) (given : Option String) : Option String :=
  match given.filter (· ≠ "") with
  | some level => levelMessage level
  | none =>
    match Settings.read [] env with
    | .ok s => levelMessage s.logLevel
    | .error faults => some (faultReport faults)

/-! ## The command -/

namespace CompileCommand

/-- The plan that the command asks for, over the options that the settings stand for. -/
def plan (c : CompileCommand) (columns : List Column) (s : Settings) : Except Error Plan := do
  let defaults ← s.options Options.default
  Plan.compile (columns.map Value.column) (some c.searchText) defaults (.entries c.overrides)

/-- What the command prints of a plan. -/
def output (c : CompileCommand) (columns : List Column) (p : Plan) : Except Error String :=
  match c.format with
  | .json => .ok p.describe.pretty
  | .sql => p.sqlOver c.tableName (columns ++ p.rankedColumns)

/-- Runs the command under settings that have been read. -/
def runWith (c : CompileCommand) (columns : List Column) (s : Settings) : Except Error String := do
  let p ← c.plan columns s
  c.output columns p

/-- Runs the command. -/
def run (c : CompileCommand) (env : Environment) : Outcome :=
  match columnsOf (c.columns.map Value.text) with
  | .error e => .failed e.message
  | .ok columns =>
    match Settings.read [] env with
    | .error faults => .refused faults
    | .ok s =>
      match c.runWith columns s with
      | .error e => .failed e.message
      | .ok output => .printed (output ++ "\n")

end CompileCommand

/-- Runs the compile command on its arguments. -/
def runCompile (env : Environment) (args : List String) : Outcome :=
  match CompileCommand.ofArguments args with
  | .error e => .misused e
  | .ok c => c.run env

/-- Reads the options that stand before the command, and goes on unless they ask for the version. -/
def withCommon (args : List String) (next : Arguments CommonOption → Outcome) : Outcome :=
  match Arguments.collect CommonOption.declared false args with
  | .error e => .misused e
  | .ok a => if (a.flag? .version).isSome then .printed versionLine else next a

/-- Runs a command by its name.  One that does not exist is first looked at as an option before the command. -/
def runCommand (env : Environment) (logLevel : Option String) (name : String) (args : List String) : Outcome :=
  if name = "compile" then
    match logLevelMessage env logLevel with
    | some message => .failed ("invalid log level: " ++ message)
    | none => runCompile env args
  else withCommon (name :: args) fun _ => .misused (.unknownCommand name)

/-- Runs the command line. -/
def run (env : Environment) (args : List String) : Outcome :=
  withCommon args fun a =>
    match a.rest with
    | [] => .misused .missingCommand
    | name :: rest => runCommand env (a.text? .logLevel) name rest

end FullText.CommandLine
