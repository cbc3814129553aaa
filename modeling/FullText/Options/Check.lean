import FullText.Options
import FullText.Text.Lowercase
import FullText.Value.Column
import FullText.Value.Integer

/-!
# Checking option values

Each option has its own check, from a loose value to what the option holds.  The three choices are read without regard
to case and surrounding blanks, know a few other spellings, and report the word as it was read.
-/

namespace FullText

open Text

/-- The word that a text stands for: without blanks around it, in lower case. -/
def wordOf (s : String) : String := lowercase (strip s)

/-- Other spellings of the wildcard policies. -/
def wildcardSpellings : List (String × Wildcard) :=
  [("last_only", .last), ("lastonly", .last), ("true", .all), ("false", .none)]

/-- Other spellings of the rank functions. -/
def rankFunctionSpellings : List (String × RankFunction) :=
  [("tsrank", .frequency), ("tsrankcoverdensity", .coverDensity)]

/-- A choice among words: the value counts as a text, whose word is looked up. -/
def checkChoice {α : Type} (words : List String) (ofWord? : String → Option α) (v : Value) : Except Refusal α :=
  match v.text? with
  | none => .error ⟨.notOneOf words, v⟩
  | some s =>
    match ofWord? (wordOf s) with
    | some x => .ok x
    | none => .error ⟨.notOneOf words, .text (wordOf s)⟩

/-- A wildcard policy; true and false stand for all and none, and so does null for none. -/
def checkWildcard (v : Value) : Except Refusal Wildcard :=
  match v with
  | .bool b => .ok (if b then .all else .none)
  | .null => .ok .none
  | _ => checkChoice (Wildcard.choices.map Wildcard.word)
      (fun w => wildcardSpellings.lookup w <|> Wildcard.ofWord? w) v

def checkOperator (v : Value) : Except Refusal Operator :=
  checkChoice (Operator.choices.map Operator.word) Operator.ofWord? v

def checkRankFunction (v : Value) : Except Refusal RankFunction :=
  checkChoice (RankFunction.choices.map RankFunction.word)
    (fun w => rankFunctionSpellings.lookup w <|> RankFunction.ofWord? w) v

/-- A bit mask: a whole number that is not negative, and no truth value. -/
def checkNormalization (v : Value) : Except Refusal Nat :=
  let refuse (kind : FaultKind) : Except Refusal Nat := .error ⟨kind, v⟩
  match v with
  | .bool _ => refuse (.refused "normalization must be an integer bitmask, not a boolean")
  | _ =>
    match v.toInteger with
    | .error kind => refuse kind
    | .ok n => if n < 0 then refuse .negative else .ok n.toNat

def checkSelectRank (v : Value) : Except Refusal Bool :=
  match v.toBoolean with
  | .ok b => .ok b
  | .error kind => .error ⟨kind, v⟩

/-- Whether a character may begin the name of a language. -/
def isLanguageStart (c : Char) : Bool := c.isAlpha || c = '_'

/-- Whether a character may stand inside the name of a language. -/
def isLanguageChar (c : Char) : Bool := c.isAlphanum || c = '_' || c = '.'

/-- The names that a text search configuration may have: `[A-Za-z_][A-Za-z0-9_.]*`. -/
def isLanguageName (s : String) : Bool :=
  match s.toList with
  | [] => false
  | c :: rest => isLanguageStart c && rest.all isLanguageChar

def checkLanguage (v : Value) : Except Refusal String :=
  match v.text? with
  | none => .error ⟨.notText, v⟩
  | some s => if isLanguageName s then .ok s else .error ⟨.badLanguage, v⟩

/-- A scope's name; null is no name. -/
def checkScopeName (v : Value) : Except Refusal (Option String) :=
  match v with
  | .null => .ok none
  | _ =>
    match v.text? with
    | some s => .ok (some s)
    | none => .error ⟨.notText, v⟩

/-- The values that a collection holds: the items of a list, the keys of a mapping.  A text or a column by itself is a
collection of one. -/
def Value.items? (v : Value) : Option (List Value) :=
  match v with
  | .column _ => some [v]
  | .list items => some items
  | .tuple items => some items
  | .mapping entries => some (entries.map fun e => .text e.1)
  | _ => if v.text?.isSome then some [v] else none

/-- The columns to rank by; null and an empty collection mean the searched columns. -/
def checkRankColumns (v : Value) : Except Refusal (Option (List Column)) :=
  match v with
  | .null => .ok none
  | _ =>
    match v.items? with
    | none => .error ⟨.refused "rank_columns must be a collection of column names", v⟩
    | some items =>
      match columnsOf items with
      | .error e => .error ⟨.refused e.message, v⟩
      | .ok [] => .ok none
      | .ok cs => .ok (some cs)

end FullText
