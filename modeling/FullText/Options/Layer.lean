import FullText.Options.Check

/-!
# Layers of options

A `Layer` sets some of the options and leaves the others to what lies below it.  `Layer.ofEntries` reads one from keys
and values, `Options.ofEntries` reads a full set, and `Layer.apply` lays one over options.

Entries are checked field by field in the order of declaration; keys that name no option come last, in the order given.
The scope name has two keys, of which the short one goes first; with both given the long one names no option.
-/

namespace FullText

/-- Keys with their values, in the order given. -/
abbrev Entries := List (String × Value)

/-- A partial set of options.  An option that was set to null holds `some none`, except that a wildcard of null is the
policy that marks nothing. -/
structure Layer where
  scopeName : Option (Option String) := none
  wildcard : Option Wildcard := none
  operator : Option (Option Operator) := none
  normalization : Option (Option Nat) := none
  selectRank : Option (Option Bool) := none
  language : Option (Option String) := none
  rankFunction : Option (Option RankFunction) := none
  rankColumns : Option (Option (List Column)) := none
  deriving DecidableEq, Repr, Inhabited

/-! ## Reading entries -/

namespace OptionField

/-- The keys that a field may be given by, the first of which goes first. -/
def keys : OptionField → List String
  | .scopeName => [shortScopeKey, OptionField.scopeName.name]
  | f => [f.name]

/-- The value that entries give to a field, with its key. -/
def given? (f : OptionField) (entries : Entries) : Option (String × Value) :=
  f.keys.findSome? fun key => (entries.lookup key).map fun v => (key, v)

end OptionField

/-- Whether a key names no option among these entries. -/
def isUnknownKey (entries : Entries) (key : String) : Bool :=
  if key = OptionField.shortScopeKey then false
  else if key = OptionField.scopeName.name then (entries.lookup OptionField.shortScopeKey).isSome
  else !(OptionField.all.map OptionField.name).contains key

/-- The faults of the keys that name no option. -/
def unknownKeyFaults (entries : Entries) : List Fault :=
  (entries.filter fun e => isUnknownKey entries e.1).map fun e => ⟨e.1, .unknownKey, e.2⟩

/-- Why a check failed. -/
def refusalOf {α : Type} : Except Refusal α → Option Refusal
  | .ok _ => none
  | .error r => some r

/-- A check that also accepts null. -/
def orNull {α : Type} (check : Value → Except Refusal α) (v : Value) : Except Refusal (Option α) :=
  if v.isNull then .ok none else (check v).map some

namespace OptionField

/-- Why a value is refused as a full option; in a layer every option may also be null. -/
def refusal? (f : OptionField) (inLayer : Bool) (v : Value) : Option Refusal :=
  if inLayer && v.isNull then none
  else
    match f with
    | .scopeName => refusalOf (checkScopeName v)
    | .wildcard => refusalOf (checkWildcard v)
    | .operator => refusalOf (checkOperator v)
    | .normalization => refusalOf (checkNormalization v)
    | .selectRank => refusalOf (checkSelectRank v)
    | .language => refusalOf (checkLanguage v)
    | .rankFunction => refusalOf (checkRankFunction v)
    | .rankColumns => refusalOf (checkRankColumns v)

/-- The fault of the value that entries give to a field. -/
def fault? (f : OptionField) (inLayer : Bool) (entries : Entries) : Option Fault := do
  let (key, v) ← f.given? entries
  let r ← f.refusal? inLayer v
  return r.at key

/-- What a check makes of the value that entries give to a field, if they give one and it passes. -/
def read {α : Type} (f : OptionField) (check : Value → Except Refusal α) (entries : Entries) : Option α :=
  (f.given? entries).bind fun given => (check given.2).toOption

end OptionField

/-- All faults of entries: those of the fields in order, then those of the unknown keys. -/
def entryFaults (inLayer : Bool) (entries : Entries) : List Fault :=
  OptionField.all.filterMap (·.fault? inLayer entries) ++ unknownKeyFaults entries

/-- The layer that entries describe. -/
def Layer.ofEntries (entries : Entries) : Except (List Fault) Layer :=
  match entryFaults true entries with
  | [] => .ok {
      scopeName := OptionField.scopeName.read checkScopeName entries
      wildcard := OptionField.wildcard.read checkWildcard entries
      operator := OptionField.operator.read (orNull checkOperator) entries
      normalization := OptionField.normalization.read (orNull checkNormalization) entries
      selectRank := OptionField.selectRank.read (orNull checkSelectRank) entries
      language := OptionField.language.read (orNull checkLanguage) entries
      rankFunction := OptionField.rankFunction.read (orNull checkRankFunction) entries
      rankColumns := OptionField.rankColumns.read checkRankColumns entries }
  | faults => .error faults

/-- The full options that entries describe; a field that they do not mention has its default. -/
def Options.ofEntries (entries : Entries) : Except (List Fault) Options :=
  match entryFaults false entries with
  | [] => .ok {
      scopeName := (OptionField.scopeName.read checkScopeName entries).getD Options.default.scopeName
      wildcard := (OptionField.wildcard.read checkWildcard entries).getD Options.default.wildcard
      operator := (OptionField.operator.read checkOperator entries).getD Options.default.operator
      normalization := (OptionField.normalization.read checkNormalization entries).getD Options.default.normalization
      selectRank := (OptionField.selectRank.read checkSelectRank entries).getD Options.default.selectRank
      language := (OptionField.language.read checkLanguage entries).getD Options.default.language
      rankFunction := (OptionField.rankFunction.read checkRankFunction entries).getD Options.default.rankFunction
      rankColumns := (OptionField.rankColumns.read checkRankColumns entries).getD Options.default.rankColumns }
  | faults => .error faults

/-! ## Laying a layer over options -/

namespace Layer

/-- Whether the layer sets an option. -/
def sets (l : Layer) : OptionField → Bool
  | .scopeName => l.scopeName.isSome
  | .wildcard => l.wildcard.isSome
  | .operator => l.operator.isSome
  | .normalization => l.normalization.isSome
  | .selectRank => l.selectRank.isSome
  | .language => l.language.isSome
  | .rankFunction => l.rankFunction.isSome
  | .rankColumns => l.rankColumns.isSome

/-- The options that the layer sets, in the order of declaration. -/
def fields (l : Layer) : List OptionField := OptionField.all.filter l.sets

/-- Whether the layer sets an option to null that may not be null. -/
def nulls (l : Layer) : OptionField → Bool
  | .operator => l.operator == some none
  | .normalization => l.normalization == some none
  | .selectRank => l.selectRank == some none
  | .language => l.language == some none
  | .rankFunction => l.rankFunction == some none
  | _ => false

/-- An option that is null and may not be: of several the first in the order of declaration, though any of them may be
named. -/
def firstNull? (l : Layer) : Option OptionField := OptionField.all.find? l.nulls

/-- The options below, with those that the layer sets in its place. -/
def apply (l : Layer) (o : Options) : Options where
  scopeName := l.scopeName.getD o.scopeName
  wildcard := l.wildcard.getD o.wildcard
  operator := (l.operator.getD none).getD o.operator
  normalization := (l.normalization.getD none).getD o.normalization
  selectRank := (l.selectRank.getD none).getD o.selectRank
  language := (l.language.getD none).getD o.language
  rankFunction := (l.rankFunction.getD none).getD o.rankFunction
  rankColumns := l.rankColumns.getD o.rankColumns

@[simp] theorem apply_empty (o : Options) : ({} : Layer).apply o = o := rfl

end Layer

end FullText
