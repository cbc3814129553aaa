import FullText.Plan
import FullText.Sql.Source
import FullText.Value.Column

/-!
# Expressions of a search

`Expr` is the tree of the SQL expressions that a search is made of.  Every constant in it is bound to a `Slot`, which
says in which clause it stands and what for; the same slot twice is the same parameter.

`Document.expr`, `Query.expr`, `Filter.expr` and `Ranking.expr` build the trees over a source.  A document is its
columns with null read as the empty text, joined by blanks.
-/

namespace FullText

namespace Sql

/-- What a constant is for. -/
inductive Role where
  | documentLanguage
  /-- The empty text that stands for a null in a document's column. -/
  | blank (index : Nat)
  /-- The blank after a document's column. -/
  | separator (index : Nat)
  | queryLanguage
  | queryText
  | normalization
  /-- What a column is compared with. -/
  | comparison (column : String)
  | limit
  deriving DecidableEq, Repr, Inhabited

/-- The place of a constant: a clause of the statement, and a role in it. -/
structure Slot where
  clause : Nat
  role : Role
  deriving DecidableEq, Repr, Inhabited

/-- A constant at its place. -/
structure Bound where
  slot : Slot
  value : Literal
  type : ParameterType
  deriving DecidableEq, Repr, Inhabited

/-- A constant of the type that its value has. -/
def Bound.of (clause : Nat) (role : Role) (value : Literal) : Bound := ⟨⟨clause, role⟩, value, value.type⟩

/-- The expressions of a search. -/
inductive Expr where
  | column (path : List String) (name : String)
  /-- A column of a subquery, under the label that it has there. -/
  | derived (path : List String) (name : String)
  | bound (b : Bound)
  | zero
  | coalesce (value fallback : Expr)
  | concat (left right : Expr)
  /-- A language's name as a text search configuration. -/
  | configuration (language : Expr)
  /-- The vector of a document. -/
  | vector (configuration document : Expr)
  /-- The query that a text stands for. -/
  | query (configuration text : Expr)
  | rank (function : RankFunction) (vector query normalization : Expr)
  /-- Whether a query hits a vector. -/
  | hits (vector query : Expr)
  | greater (left right : Expr)
  deriving DecidableEq, Repr, Inhabited

/-- A constant as an expression. -/
def Expr.ofText (clause : Nat) (role : Role) (s : String) : Expr := .bound (.of clause role (.text s))

/-- The name of the column that an expression is. -/
def Expr.columnName? : Expr → Option String
  | .column _ name | .derived _ name => some name
  | _ => none

/-- A reference to a column of a source. -/
def Source.reference (source : Source) (name : String) : Expr :=
  match source with
  | .subquery .. => .derived source.path name
  | _ => .column source.path name

/-- The column of a source by name. -/
def Source.columnExpr (source : Source) (name : String) : Except Error Expr :=
  match source.column? name with
  | some c => .ok (source.reference c.name)
  | none => .error (.missingColumn name)

/-- A column of a document: its text, or the empty text for null. -/
def Source.textExpr (source : Source) (clause index : Nat) (c : Column) : Except Error Expr := do
  let e ← source.columnExpr c.name
  return .coalesce e (.ofText clause (.blank index) "")

/-- Joins further columns to a document, each after a blank; `index` counts the columns so far, less one. -/
def Source.extendDocument (source : Source) (clause : Nat) : Nat → Expr → List Column → Except Error Expr
  | _, document, [] => .ok document
  | index, document, c :: rest => do
    let e ← source.textExpr clause (index + 1) c
    source.extendDocument clause (index + 1) (.concat (.concat document (.ofText clause (.separator index) " ")) e) rest

end Sql

open Sql

/-- The text of a document's columns.  Compiled documents have a column; one built by hand without any has no first
column to begin with, and that failure is named as a document without columns. -/
def Document.textExpr (d : Document) (source : Source) (clause : Nat) : Except Error Expr :=
  match d.columns with
  | [] => .error (.noColumns .document)
  | c :: rest => do
    let e ← source.textExpr clause 0 c
    source.extendDocument clause 0 e rest

/-- The vector of a document over a source. -/
def Document.expr (d : Document) (source : Source) (clause : Nat) : Except Error Expr := do
  let text ← d.textExpr source clause
  return .vector (.configuration (.ofText clause .documentLanguage d.language)) text

/-- A query. -/
def Query.expr (q : Query) (clause : Nat) : Expr :=
  .query (.configuration (.ofText clause .queryLanguage q.language)) (.ofText clause .queryText q.text)

/-- Whether the query of a filter hits its document. -/
def Filter.expr (f : Filter) (source : Source) (clause : Nat) : Except Error Expr := do
  let vector ← f.document.expr source clause
  return .hits vector (f.query.expr clause)

/-- The score of a ranking. -/
def Ranking.expr (r : Ranking) (source : Source) (clause : Nat) : Except Error Expr := do
  let vector ← r.document.expr source clause
  return .rank r.function vector (r.query.expr clause) (.bound (.of clause .normalization (.int r.normalization)))

end FullText
