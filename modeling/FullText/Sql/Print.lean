import FullText.Sql.Statement
import FullText.Sql.Symbol

/-!
# Printing SQL

A statement is printed as a list of `Fragment`s: SQL that is fixed, constants, and labels.  The symbols of a statement
are named by the order in which they first appear in it.  `inlined` writes the constants into the text; `parametrised`
writes parameters for them and `parameters` lists their values.
-/

namespace FullText.Sql

open Text

/-- A piece of printed SQL. -/
inductive Fragment where
  | sql (text : String)
  | bound (b : Bound)
  | label (l : Label)
  deriving DecidableEq, Repr, Inhabited

/-- The pieces of several parts, with a separator between neighbours. -/
def separated (separator : String) : List (List Fragment) → List Fragment
  | [] => []
  | [part] => part
  | part :: rest => part ++ .sql separator :: separated separator rest

/-! ## Statements as fragments -/

/-- A name after the names that qualify it. -/
def qualified (path : List String) : String := joined "." (path.map identifier)

namespace Expr

/-- The pieces of an expression. -/
def fragments : Expr → List Fragment
  | .column path name => [.sql (qualified (path ++ [name]))]
  | .derived path name => [.sql (qualified path ++ "."), .label (.column name)]
  | .bound b => [.bound b]
  | .zero => [.sql "0"]
  | .coalesce value fallback =>
    .sql "coalesce(" :: value.fragments ++ .sql ", " :: fallback.fragments ++ [.sql ")"]
  | .concat left right => left.fragments ++ .sql " || " :: right.fragments
  | .configuration l => .sql "CAST(" :: l.fragments ++ [.sql " AS REGCONFIG)"]
  | .vector c d => .sql "to_tsvector(" :: c.fragments ++ .sql ", " :: d.fragments ++ [.sql ")"]
  | .query c t => .sql "to_tsquery(" :: c.fragments ++ .sql ", " :: t.fragments ++ [.sql ")"]
  | .rank f v q n =>
    .sql (f.word ++ "(") :: v.fragments ++ .sql ", " :: q.fragments ++ .sql ", " :: n.fragments ++ [.sql ")"]
  | .hits v q => v.fragments ++ .sql " @@ " :: q.fragments
  | .greater left right => left.fragments ++ .sql " > " :: right.fragments

/-- The pieces of an expression as one of several conditions. -/
def conjunctFragments (e : Expr) : List Fragment :=
  match e with
  | .hits .. => .sql "(" :: e.fragments ++ [.sql ")"]
  | _ => e.fragments

end Expr

/-- The pieces of a column of the result under a label. -/
def Output.labelFragments (o : Output) (label : Fragment) : List Fragment := o.expr.fragments ++ [.sql " AS ", label]

/-- The pieces of a column of the result, after the columns `earlier`. -/
def Output.fragments (earlier : List Output) (o : Output) : List Fragment :=
  match o.label, o.expr.columnName? with
  | some label, _ => o.labelFragments (.sql (identifier label))
  | none, some name =>
    if earlier.contains o then o.labelFragments (.label (.repeated name (earlier.count o))) else o.expr.fragments
  | none, none => o.expr.fragments

/-- The pieces of the columns of the result, each after the columns before it. -/
def outputParts (earlier : List Output) : List Output → List (List Fragment)
  | [] => []
  | o :: rest => o.fragments earlier :: outputParts (earlier ++ [o]) rest

def SortKey.fragments (k : SortKey) : List Fragment :=
  if k.descending then k.expr.fragments ++ [.sql " DESC"] else k.expr.fragments

/-- The pieces of a list of columns to show; an empty one leaves nothing, not even a blank. -/
def selectFragments : List (List Fragment) → List Fragment
  | [] => [.sql "SELECT"]
  | parts => .sql "SELECT " :: separated ", " parts

/-- The label of a column inside a subquery. -/
def TableColumn.label (c : TableColumn) : Label := if c.name = "" then .nameless else .column c.name

/-- The pieces of a table's column under its label. -/
def Table.columnFragments (t : Table) (c : TableColumn) : List Fragment :=
  [.sql (qualified (t.path ++ [c.name]) ++ " AS "), .label c.label]

/-- The pieces of a source. -/
def Source.fragments : Source → List Fragment
  | .table t => [.sql (qualified t.path)]
  | .alias t name => [.sql (qualified t.path ++ " AS " ++ identifier name)]
  | .subquery t name =>
    .sql "(" :: selectFragments (t.columns.map t.columnFragments) ++
      [.sql (" \nFROM " ++ qualified t.path ++ ") AS " ++ identifier name)]

namespace Statement

/-- The pieces of the conditions; a single one stands by itself. -/
def conditionFragments : List Expr → List Fragment
  | [] => []
  | [e] => .sql " \nWHERE " :: e.fragments
  | es => .sql " \nWHERE " :: separated " AND " (es.map Expr.conjunctFragments)

def orderFragments (keys : List SortKey) : List Fragment :=
  if keys.isEmpty then [] else .sql " ORDER BY " :: separated ", " (keys.map SortKey.fragments)

def limitFragments : Option Bound → List Fragment
  | none => []
  | some b => [.sql " \n LIMIT ", .bound b]

def sourceFragments (sources : List Source) : List Fragment :=
  if sources.isEmpty then [] else .sql " \nFROM " :: separated ", " (sources.map Source.fragments)

/-- The pieces of a statement. -/
def fragments (s : Statement) : List Fragment :=
  selectFragments (outputParts [] s.outputs) ++ sourceFragments s.sources ++ conditionFragments s.conjuncts ++
    orderFragments s.sortKeys ++ limitFragments s.limit

end Statement

/-! ## Fragments as text -/

/-- The constant of a piece. -/
def Fragment.bound? : Fragment → Option Bound
  | .bound b => some b
  | _ => none

/-- The symbol that a piece is written as. -/
def Fragment.symbol? : Fragment → Option Symbol
  | .sql _ => none
  | .bound b => some (.parameter b.slot)
  | .label l => some (.label l)

/-- The symbols of a text, in the order in which they first appear. -/
def symbols (fragments : List Fragment) : List Symbol := (fragments.filterMap Fragment.symbol?).eraseDups

/-- The places of the constants, in the order in which they first appear. -/
def slots (fragments : List Fragment) : List Slot := ((fragments.filterMap Fragment.bound?).map Bound.slot).eraseDups

/-- The name of the parameter at a place, among the symbols of a statement. -/
def parameterName (symbols : List Symbol) (slot : Slot) : String := Symbol.name symbols (.parameter slot)

/-- The label as it is written, among the symbols of a statement. -/
def Label.written (symbols : List Symbol) (l : Label) : String := identifier (Symbol.name symbols (.label l))

/-- A piece with its constant written out. -/
def Fragment.inlined (symbols : List Symbol) : Fragment → String
  | .sql text => text
  | .bound b => b.value.inlined
  | .label l => l.written symbols

/-- The SQL with its constants written out. -/
def inlined (fragments : List Fragment) : String := String.join (fragments.map (Fragment.inlined (symbols fragments)))

/-- A piece with a parameter for its constant. -/
def Fragment.parametrised (symbols : List Symbol) : Fragment → String
  | .sql text => text
  | .bound b => "%(" ++ parameterName symbols b.slot ++ ")s::" ++ b.type.word
  | .label l => l.written symbols

/-- The SQL with parameters for its constants. -/
def parametrised (fragments : List Fragment) : String :=
  String.join (fragments.map (Fragment.parametrised (symbols fragments)))

/-- The values of the parameters, each once. -/
def parameters (fragments : List Fragment) : List (String × Literal) :=
  (slots fragments).filterMap fun slot =>
    ((fragments.filterMap Fragment.bound?).find? (·.slot == slot)).map fun b =>
      (parameterName (symbols fragments) slot, b.value)

end FullText.Sql
