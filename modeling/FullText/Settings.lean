import FullText.Options.Resolve

/-!
# Settings

`Settings` are the defaults of an installation.  Each of them may be given directly under its name or by an environment
variable, whose name is `PG_SEARCH_` and the setting's name, both in letters of any case; a value that is given directly
goes first, and a value that is given for no setting does not count.

Words are kept as they are written.  They are only checked when options are made of them (`Settings.options`).
-/

namespace FullText

open Text

/-- The settings by name. -/
inductive SettingField where
  | wildcard | operator | normalization | selectRank | language | rankFunction | logLevel
  deriving DecidableEq, Repr, Inhabited

namespace SettingField

/-- The fields in the order of their declaration. -/
def all : List SettingField :=
  [.wildcard, .operator, .normalization, .selectRank, .language, .rankFunction, .logLevel]

theorem mem_all (f : SettingField) : f ∈ all := by cases f <;> simp [all]

/-- The setting's name. -/
def name : SettingField → String
  | .wildcard => "wildcard"
  | .operator => "operator"
  | .normalization => "normalization"
  | .selectRank => "select_rank"
  | .language => "language"
  | .rankFunction => "rank_function"
  | .logLevel => "log_level"

/-- The name of the setting's environment variable, in lower case. -/
def variableName (f : SettingField) : String := "pg_search_" ++ f.name

end SettingField

/-- The defaults of an installation. -/
structure Settings where
  wildcard : String := "all"
  operator : String := "and"
  normalization : Int := 0
  selectRank : Bool := false
  language : String := "simple"
  rankFunction : String := "ts_rank"
  logLevel : String := "INFO"
  deriving DecidableEq, Repr, Inhabited

/-- The settings of an installation that gives none. -/
def Settings.default : Settings := {}

/-- Environment variables with their values, in order. -/
abbrev Environment := List (String × String)

/-! ## Reading settings -/

/-- The value under a name in lower case; of several spellings of the name the last one counts. -/
def lookupAnyCase {α : Type} (name : String) (entries : List (String × α)) : Option α :=
  (entries.reverse.find? fun e => lowercase e.1 == name).map (·.2)

namespace SettingField

/-- The value of the setting's variable. -/
def ofEnvironment? (f : SettingField) (env : Environment) : Option String := lookupAnyCase f.variableName env

/-- The value that is given for the setting. -/
def value? (f : SettingField) (given : Entries) (env : Environment) : Option Value :=
  lookupAnyCase f.name given <|> (f.ofEnvironment? env).map Value.text

end SettingField

/-- A word, as it is written. -/
def checkWord (v : Value) : Except FaultKind String :=
  match v.text? with
  | some s => .ok s
  | none => .error .notText

/-- A whole number; true and false stand for 1 and 0. -/
def checkWhole (v : Value) : Except FaultKind Int :=
  match v with
  | .bool b => .ok (if b then 1 else 0)
  | _ => v.toInteger

/-- What is wrong with the outcome of a check. -/
def kindOf {α : Type} : Except FaultKind α → Option FaultKind
  | .ok _ => none
  | .error kind => some kind

namespace SettingField

/-- What is wrong with a value of the setting. -/
def kind? (f : SettingField) (v : Value) : Option FaultKind :=
  match f with
  | .normalization => kindOf (checkWhole v)
  | .selectRank => kindOf v.toBoolean
  | _ => kindOf (checkWord v)

/-- The fault of the value that is given for the setting. -/
def fault? (f : SettingField) (given : Entries) (env : Environment) : Option Fault := do
  let v ← f.value? given env
  let kind ← f.kind? v
  return ⟨f.name, kind, v⟩

/-- What a check makes of the value that is given for the setting, if one is given and it passes. -/
def read {α : Type} (f : SettingField) (check : Value → Except FaultKind α) (given : Entries) (env : Environment) :
    Option α :=
  (f.value? given env).bind fun v => (check v).toOption

end SettingField

namespace Settings

/-- The name under which the settings as a whole are refused. -/
def title : String := "SearchScopeConfig"

/-- The settings that values and variables give, or their faults in the order of declaration. -/
def read (given : Entries) (env : Environment) : Except (List Fault) Settings :=
  match SettingField.all.filterMap (·.fault? given env) with
  | [] => .ok {
      wildcard := (SettingField.wildcard.read checkWord given env).getD default.wildcard
      operator := (SettingField.operator.read checkWord given env).getD default.operator
      normalization := (SettingField.normalization.read checkWhole given env).getD default.normalization
      selectRank := (SettingField.selectRank.read Value.toBoolean given env).getD default.selectRank
      language := (SettingField.language.read checkWord given env).getD default.language
      rankFunction := (SettingField.rankFunction.read checkWord given env).getD default.rankFunction
      logLevel := (SettingField.logLevel.read checkWord given env).getD default.logLevel }
  | faults => .error faults

/-- The options that the settings stand for. -/
def entries (s : Settings) : Entries := [
  (OptionField.wildcard.name, .text s.wildcard),
  (OptionField.operator.name, .text s.operator),
  (OptionField.normalization.name, .int s.normalization),
  (OptionField.selectRank.name, .bool s.selectRank),
  (OptionField.language.name, .text s.language),
  (OptionField.rankFunction.name, .text s.rankFunction)]

/-- The settings laid over options. -/
def options (s : Settings) (base : Options) : Except Error Options := base.resolve (.entries s.entries)

end Settings

end FullText
