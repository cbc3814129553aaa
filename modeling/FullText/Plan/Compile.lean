import FullText.Options.Resolve
import FullText.Plan
import FullText.Term.Scan

/-!
# Compiling a search

`Plan.compile` turns columns, a search text and options into a plan.  The options are settled first, then the name;
columns are read when a name has to be made from them and when the text has terms.  `Plan.notes` lists what there is to
say about the steps on the way, as far as they are reached.
-/

namespace FullText

open Text

/-! ## Parts of a search -/

/-- The name of a search that was given none: after the columns that it searches. -/
def scopeNameOf (columns : List Column) : String := "search_by_" ++ joined "_and_" (columns.map Column.name)

/-- The label of the score of a named search. -/
def rankLabelOf (scopeName : String) : String := scopeName ++ "_rank"

/-- The document over columns that are still loose values. -/
def Document.ofValues (values : List Value) (language : String) : Except Error Document := do
  let columns ← columnsOf values
  if columns.isEmpty then throw (.noColumns .document)
  return { columns, language }

/-- The query that joins terms. -/
def Query.ofTerms (terms : List Term) (operator : Operator) (language : String) : Except Error Query :=
  if terms.isEmpty then .error .noTerms else .ok { terms, operator, language }

/-- The name that options give to a search over columns. -/
def Options.nameFor (o : Options) (columns : List Value) : Except Error String :=
  match o.scopeName.filter (· ≠ "") with
  | some name => .ok name
  | none => (columnsOf columns).map scopeNameOf

/-- The terms of a text, marked as the options say. -/
def Options.termsOf (o : Options) (text : String) : List Term := o.wildcard.apply (Term.scan text)

/-- The document that scores are taken from: over the columns to rank by, or else the searched one. -/
def Options.rankDocument (o : Options) (searched : Document) : Document :=
  match o.rankColumns with
  | some (c :: rest) => { columns := c :: rest, language := o.language }
  | _ => searched

/-! ## The plan -/

namespace Plan

/-- The plan of a search without terms. -/
def withoutTerms (o : Options) (scopeName : String) : Plan where
  scopeName := scopeName
  rankLabel := if o.selectRank then some (rankLabelOf scopeName) else none
  projectsZero := o.selectRank

/-- The plan of a search with terms. -/
def withTerms (o : Options) (scopeName : String) (document : Document) (query : Query) : Plan where
  scopeName := scopeName
  filter := some { document, query }
  ranking := some
    { function := o.rankFunction, document := o.rankDocument document, query, normalization := o.normalization }
  rankLabel := if o.selectRank then some (rankLabelOf scopeName) else none
  ordersByRank := true

/-- The plan of a search whose options are settled. -/
def ofOptions (columns : List Value) (text : Option String) (o : Options) : Except Error Plan := do
  let scopeName ← o.nameFor columns
  let terms := o.termsOf (text.getD "")
  if terms.isEmpty then return withoutTerms o scopeName
  let document ← Document.ofValues columns o.language
  let query ← Query.ofTerms terms o.operator o.language
  return withTerms o scopeName document query

/-- The plan of a search over columns, with overrides over the options it was declared with. -/
def compile (columns : List Value) (text : Option String) (defaults : Options) (overrides : Overrides) :
    Except Error Plan := do
  if columns.isEmpty then throw (.noColumns .search)
  let o ← defaults.resolve overrides
  ofOptions columns text o

end Plan

/-! ## Notes on the way -/

/-- What there is to say about a step. -/
inductive Note where
  | resolved (fields : List OptionField)
  | tokenized (text : String) (count : Nat)
  | withoutTerms (scopeName : String)
  | compiled (scopeName : String) (query : String)
  deriving DecidableEq, Repr, Inhabited

/-- A note in words; the names of options are in alphabetical order. -/
def Note.message : Note → String
  | .resolved fields =>
    let names := (fields.map OptionField.name).mergeSort fun a b => decide (a ≤ b)
    "resolved search options with overrides: [" ++ joined ", " (names.map quoted) ++ "]"
  | .tokenized text count => "tokenized " ++ quoted text ++ " into " ++ toString count ++ " terms"
  | .withoutTerms scopeName => scopeName ++ ": no search terms, skipping full-text filter"
  | .compiled scopeName query => scopeName ++ ": compiled tsquery " ++ quoted query

/-- The note on resolving overrides; there is none when they set nothing or fail. -/
def Options.notes (defaults : Options) (overrides : Overrides) : List Note :=
  match overrides.toLayer, defaults.resolve overrides with
  | .ok l, .ok _ => if l.fields.isEmpty then [] else [.resolved l.fields]
  | _, _ => []

/-- The notes on resolving several overrides in turn. -/
def Options.notesAll (defaults : Options) : List Overrides → List Note
  | [] => []
  | overrides :: rest =>
    defaults.notes overrides ++
      match defaults.resolve overrides with
      | .ok o => o.notesAll rest
      | .error _ => []

/-- The notes on compiling a search whose options are settled. -/
def Plan.notesOfOptions (columns : List Value) (text : Option String) (o : Options) : List Note :=
  match o.nameFor columns with
  | .error _ => []
  | .ok scopeName =>
    let text := text.getD ""
    let cut := if text = "" then [] else [Note.tokenized text (Term.scan text).length]
    let terms := o.termsOf text
    if terms.isEmpty then cut ++ [.withoutTerms scopeName]
    else
      match Document.ofValues columns o.language, Query.ofTerms terms o.operator o.language with
      | .ok _, .ok query => cut ++ [.compiled scopeName query.text]
      | _, _ => cut

/-- The notes on compiling a search. -/
def Plan.notes (columns : List Value) (text : Option String) (defaults : Options) (overrides : Overrides) : List Note :=
  if columns.isEmpty then []
  else
    defaults.notes overrides ++
      match defaults.resolve overrides with
      | .ok o => notesOfOptions columns text o
      | .error _ => []

end FullText
