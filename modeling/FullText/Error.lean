import FullText.Fault

/-!
# Errors

`Error` lists the ways in which a search, a scope or a clause can fail, by cause; `Error.message` is the wording.
-/

namespace FullText

open Text

/-- What columns were wanted for. -/
inductive ColumnUse where
  | search | document | scope
  deriving DecidableEq, Repr, Inhabited

/-- The causes of failure. -/
inductive Error where
  /-- No column was given. -/
  | noColumns (use : ColumnUse)
  /-- A value names no column. -/
  | notColumn (value : Value)
  /-- A query was to be built from no terms. -/
  | noTerms
  /-- An option has a value that is not accepted. -/
  | invalidOption (option : String) (value : Value) (reason : Option String)
  /-- A scope of that name is already registered. -/
  | scopeTaken (name : String)
  /-- No scope of that name is registered. -/
  | unknownScope (name : String)
  /-- The source of a statement lacks a column. -/
  | missingColumn (name : String)
  /-- A column without a name is shown more than once. -/
  | namelessRepeated
  /-- A value is no member of the named choice. -/
  | notMember (choice : String) (value : Value)
  /-- A set of values was refused as a whole. -/
  | rejected (title : String) (faults : List Fault)
  deriving Inhabited

namespace Error

/-- The beginning of the sentence that asks for a column. -/
def subject : ColumnUse → String
  | .search => "A search"
  | .document => "A search vector"
  | .scope => "A search scope"

/-- A reason between parentheses; an empty one is left out. -/
def parenthesised : Option String → String
  | none => ""
  | some reason => if reason = "" then "" else " (" ++ reason ++ ")"

/-- That a value names no column. -/
def notColumnMessage (value : Value) : String := "Cannot use " ++ value.display ++ " as a column reference"

/-- The error in words; there are none for a column without a name. -/
def message : Error → String
  | .noColumns use => subject use ++ " needs at least one column"
  | .notColumn value => notColumnMessage value
  | .noTerms => "Cannot build a tsquery from zero terms"
  | .invalidOption option value reason =>
    "Invalid value for option '" ++ option ++ "': " ++ value.display ++ parenthesised reason
  | .scopeTaken name => "Search scope " ++ quoted name ++ " is already registered"
  | .unknownScope name => "Unknown search scope: " ++ quoted name
  | .missingColumn name => quoted name
  | .namelessRepeated => ""
  | .notMember choice value => value.display ++ " is not a valid " ++ choice
  | .rejected title faults =>
    title ++ ": " ++ joined "; " (faults.map fun f => f.location ++ ": " ++ f.kind.message)

/-- The error that reports the first of some faults. -/
def ofFaults : List Fault → Error
  | [] => .rejected "options" []
  | fault :: _ => .invalidOption fault.location fault.input (some fault.kind.message)

end Error

end FullText
