import FullText.CommandLine.Arguments
import FullText.Options.Layer

/-!
# The compile command

`CompileCommand.ofArguments` reads the arguments of the command that compiles a search: the columns, the text, the name
of the table, the form of the output, and overrides for the options.  An option that is given several times has its last
value, except that columns add up.
-/

namespace FullText.CommandLine

/-- The options of the command. -/
inductive CompileOption where
  | column | table | scopeName | wildcard | operator | normalization | selectRank | language | rankFunction
  | rankColumn | format
  deriving DecidableEq, Repr, Inhabited

/-- The forms of output. -/
inductive OutputFormat where
  | sql | json
  deriving DecidableEq, Repr, Inhabited

namespace OutputFormat

def word : OutputFormat → String
  | .sql => "sql"
  | .json => "json"

def choices : List OutputFormat := [.sql, .json]

def ofWord? (s : String) : Option OutputFormat := choices.find? (·.word == s)

end OutputFormat

namespace CompileOption

/-- The names that an option is given by. -/
def names : CompileOption → List String
  | .column => ["--column", "-c"]
  | .table => ["--table", "-t"]
  | .scopeName => ["--as"]
  | .wildcard => ["--wildcard"]
  | .operator => ["--operator"]
  | .normalization => ["--normalization"]
  | .selectRank => ["--select-rank"]
  | .language => ["--language"]
  | .rankFunction => ["--rank-function"]
  | .rankColumn => ["--rank-column"]
  | .format => ["--format"]

/-- The first name of an option. -/
def name (o : CompileOption) : String := o.names.headD ""

/-- The options that are followed by a value. -/
def valued : List CompileOption :=
  [.column, .table, .scopeName, .wildcard, .operator, .normalization, .language, .rankFunction, .rankColumn, .format]

/-- All names of options. -/
def declared : List (OptionName CompileOption) :=
  valued.flatMap (fun o => o.names.map fun n => { name := n, option := o }) ++
    [{ name := "--select-rank", option := .selectRank, flag := some true },
     { name := "--no-select-rank", option := .selectRank, flag := some false }]

end CompileOption

/-- The arguments of the command, read. -/
structure CompileCommand where
  searchText : String
  columns : List String
  tableName : String := "documents"
  format : OutputFormat := .sql
  /-- The options that are given, by their keys. -/
  overrides : Entries := []
  deriving Inhabited

/-! ## Values of options -/

/-- What is wrong with a word, if an option does not know it. -/
def CompileOption.choiceError? (option : CompileOption) (words : List String) (value : String) : Option UsageError :=
  if words.contains value then none else some (.badChoice option.name value words)

/-- What is wrong with the value of an option. -/
def CompileOption.error? (option : CompileOption) (a : Arguments CompileOption) : Option UsageError := do
  let value ← a.text? option
  match option with
  | .wildcard => option.choiceError? (Wildcard.choices.map Wildcard.word) value
  | .operator => option.choiceError? (Operator.choices.map Operator.word) value
  | .rankFunction => option.choiceError? (RankFunction.choices.map RankFunction.word) value
  | .format => option.choiceError? (OutputFormat.choices.map OutputFormat.word) value
  | .normalization =>
    match readInteger value with
    | .ok _ => none
    | .error kind => some (.badNumber option.name kind)
  | _ => none

/-- The override that an option gives, with its key. -/
def CompileOption.override? (option : CompileOption) (a : Arguments CompileOption) : Option (String × Value) :=
  match option with
  | .scopeName => (a.text? option).map fun s => (OptionField.shortScopeKey, .text s)
  | .wildcard => ((a.text? option).bind Wildcard.ofWord?).map fun w => (OptionField.wildcard.name, .wildcard w)
  | .operator => ((a.text? option).bind Operator.ofWord?).map fun o => (OptionField.operator.name, .operator o)
  | .normalization =>
    ((a.text? option).bind fun s => (readInteger s).toOption).map fun n => (OptionField.normalization.name, .int n)
  | .selectRank => (a.flag? option).map fun b => (OptionField.selectRank.name, .bool b)
  | .language => (a.text? option).map fun s => (OptionField.language.name, .text s)
  | .rankFunction =>
    ((a.text? option).bind RankFunction.ofWord?).map fun f => (OptionField.rankFunction.name, .rankFunction f)
  | .rankColumn =>
    match a.texts option with
    | [] => none
    | names => some (OptionField.rankColumns.name, .list (names.map .text))
  | .column | .table | .format => none

/-- The options that override those of a search, in the order of their entries. -/
def CompileOption.overriding : List CompileOption :=
  [.scopeName, .wildcard, .operator, .normalization, .selectRank, .language, .rankFunction, .rankColumn]

/-! ## The command -/

namespace CompileCommand

/-- The command that sorted arguments describe.  Values are looked at in the order in which their options first come,
then comes what is missing, then what is too much. -/
def ofSorted (a : Arguments CompileOption) : Except UsageError CompileCommand :=
  match a.used.findSome? (·.error? a), a.rest with
  | some e, _ => .error e
  | none, [] => .error (.missingArgument "search_text")
  | none, searchText :: extra =>
    let columns := a.texts .column
    if columns.isEmpty then .error (.missingOption CompileOption.column.names)
    else if !extra.isEmpty then .error (.extraArguments extra)
    else .ok {
      searchText, columns
      tableName := (a.text? .table).getD "documents"
      format := ((a.text? .format).bind OutputFormat.ofWord?).getD .sql
      overrides := CompileOption.overriding.filterMap (·.override? a) }

/-- The command that arguments describe. -/
def ofArguments (args : List String) : Except UsageError CompileCommand := do
  ofSorted (← Arguments.collect CompileOption.declared true args)

end CompileCommand

end FullText.CommandLine
