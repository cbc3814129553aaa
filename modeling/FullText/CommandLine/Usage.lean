import FullText.Fault

/-!
# Usage errors

A `UsageError` says how arguments fail to fit the command line; `UsageError.message` is the wording.
-/

namespace FullText.CommandLine

open Text

/-- How arguments fail to fit. -/
inductive UsageError where
  | missingCommand
  | unknownCommand (name : String)
  | unknownOption (name : String)
  /-- An option that takes a value stands last. -/
  | needsValue (option : String)
  /-- An option that takes no value has one. -/
  | takesNoValue (option : String)
  /-- The value of an option is none of its words. -/
  | badChoice (option value : String) (words : List String)
  /-- The value of an option is no whole number. -/
  | badNumber (option : String) (kind : FaultKind)
  | missingArgument (name : String)
  | missingOption (names : List String)
  | extraArguments (arguments : List String)
  deriving DecidableEq, Repr, Inhabited

namespace UsageError

/-- What is wrong with the value of an option. -/
def badValue (option reason : String) : String := "Invalid value for '" ++ option ++ "': " ++ reason

/-- The error in words. -/
def message : UsageError → String
  | .missingCommand => "Missing command."
  | .unknownCommand name => "No such command " ++ quoted name ++ "."
  | .unknownOption name => "No such option: " ++ name
  | .needsValue option => "Option " ++ quoted option ++ " requires an argument."
  | .takesNoValue option => "Option " ++ quoted option ++ " does not take a value."
  | .badChoice option value words =>
    badValue option ((FaultKind.refused
      (quoted value ++ " is not one of " ++ joined ", " (words.map quoted) ++ ".")).message)
  | .badNumber option kind => badValue option kind.message
  | .missingArgument name => "Missing argument '" ++ name ++ "'."
  | .missingOption names => "Missing option " ++ joined " / " (names.map fun n => "'" ++ n ++ "'") ++ "."
  | .extraArguments arguments => "Got unexpected extra argument(s) (" ++ joined " " arguments ++ ")"

end UsageError

end FullText.CommandLine
