import FullText.Sql.Expr

/-!
# Statements

A `Statement` is a SELECT: what it shows, where the rows come from, which rows it keeps, how it orders them and how many
it gives.  `Statement.search` adds a plan to one and `Statement.searchAll` several in turn; both only append.
-/

namespace FullText.Sql

/-- A column of the result, perhaps under a label. -/
structure Output where
  expr : Expr
  label : Option String := none
  deriving DecidableEq, Repr, Inhabited

/-- What rows are ordered by. -/
structure SortKey where
  expr : Expr
  descending : Bool := false
  deriving DecidableEq, Repr, Inhabited

/-- A SELECT statement. -/
structure Statement where
  sources : List Source
  outputs : List Output
  conjuncts : List Expr := []
  sortKeys : List SortKey := []
  limit : Option Bound := none
  /-- How many clauses have their own constants. -/
  clauses : Nat := 0
  deriving DecidableEq, Repr, Inhabited

namespace Statement

/-- Selects all columns of a source. -/
def ofSource (source : Source) : Statement where
  sources := [source]
  outputs := source.columns.map fun c => { expr := source.reference c.name }

/-- Selects some columns of a source; nothing is read for none. -/
def select (source : Source) (names : List String) : Except Error Statement := do
  let exprs ← names.mapM source.columnExpr
  return { sources := if names.isEmpty then [] else [source], outputs := exprs.map fun e => { expr := e } }

/-- Makes the rows of a source available. -/
def reading (s : Statement) (source : Source) : Statement :=
  if s.sources.contains source then s else { s with sources := s.sources ++ [source] }

/-- Keeps the rows whose column is greater than a number. -/
def whereGreater (s : Statement) (source : Source) (name : String) (n : Int) : Except Error Statement := do
  let e ← source.columnExpr name
  let type := if (source.column? name).any (·.type == .integer) then .integer else (Literal.int n).type
  let b : Bound := ⟨⟨s.clauses, .comparison name⟩, .int n, type⟩
  return { s.reading source with conjuncts := s.conjuncts ++ [.greater e (.bound b)], clauses := s.clauses + 1 }

/-- Orders the rows by a column, after the orders so far. -/
def orderBy (s : Statement) (source : Source) (name : String) : Except Error Statement := do
  let e ← source.columnExpr name
  return { s with sortKeys := s.sortKeys ++ [{ expr := e }] }

/-- Gives at most so many rows. -/
def limited (s : Statement) (n : Int) : Statement :=
  { s with limit := some (.of s.clauses .limit (.int n)), clauses := s.clauses + 1 }

/-- The column that a plan without a score shows. -/
def zeroOutputs (p : Plan) : List Output :=
  match p.projectsZero, p.shownLabel? with
  | true, some label => [{ expr := .zero, label := some label }]
  | _, _ => []

/-- The column that shows a plan's score. -/
def rankOutputs (p : Plan) (score : Expr) : List Output :=
  match p.shownLabel? with
  | some label => [{ expr := score, label := some label }]
  | none => []

/-- The order that a plan's score gives. -/
def rankKeys (p : Plan) (score : Expr) : List SortKey :=
  if p.ordersByRank then [{ expr := score, descending := true }] else []

/-- Adds a plan: its score to what is shown, its filter to what is kept, its order to the orders.  A plan that lacks
filter or ranking adds at most a zero. -/
def search (s : Statement) (source : Source) (p : Plan) : Except Error Statement :=
  match p.filter, p.ranking with
  | some f, some r => do
    let score ← r.expr source s.clauses
    let hits ← f.expr source (s.clauses + 1)
    return { s.reading source with
      outputs := s.outputs ++ rankOutputs p score
      conjuncts := s.conjuncts ++ [hits]
      sortKeys := s.sortKeys ++ rankKeys p score
      clauses := s.clauses + 2 }
  | _, _ => .ok { s with outputs := s.outputs ++ zeroOutputs p }

/-- Adds plans in turn. -/
def searchAll (s : Statement) (source : Source) : List Plan → Except Error Statement
  | [] => .ok s
  | p :: rest => do
    let s' ← s.search source p
    s'.searchAll source rest

/-- The statement, unless it shows a column without a name more than once: no label could be made of its name. -/
def checked (s : Statement) : Except Error Statement :=
  let nameless := s.outputs.filter fun o => o.label.isNone && o.expr.columnName? == some ""
  if nameless.eraseDups = nameless then .ok s else .error .namelessRepeated

/-! ## Small facts -/

theorem search_of_filter_none (s : Statement) (source : Source) {p : Plan} (h : p.filter = none) :
    s.search source p = .ok { s with outputs := s.outputs ++ zeroOutputs p } := by
  simp [search, h]

theorem search_of_ranking_none (s : Statement) (source : Source) {p : Plan} (h : p.ranking = none) :
    s.search source p = .ok { s with outputs := s.outputs ++ zeroOutputs p } := by
  cases hf : p.filter <;> simp [search, h, hf]

theorem search_eq_ok {s s' : Statement} {source : Source} {p : Plan} {f : Filter} {r : Ranking}
    (hf : p.filter = some f) (hr : p.ranking = some r) :
    s.search source p = .ok s' ↔ ∃ score hits, r.expr source s.clauses = .ok score ∧
      f.expr source (s.clauses + 1) = .ok hits ∧ s' = { s.reading source with
        outputs := s.outputs ++ rankOutputs p score
        conjuncts := s.conjuncts ++ [hits]
        sortKeys := s.sortKeys ++ rankKeys p score
        clauses := s.clauses + 2 } := by
  simp only [search, hf, hr]
  cases h1 : r.expr source s.clauses with
  | error e => simp [bind, Except.bind]
  | ok score =>
    cases h2 : f.expr source (s.clauses + 1) with
    | error e => simp [bind, Except.bind]
    | ok hits => simp [bind, Except.bind, pure, Except.pure, eq_comm]

@[simp] theorem searchAll_nil (s : Statement) (source : Source) : s.searchAll source [] = .ok s := rfl

end Statement

end FullText.Sql

namespace FullText

/-- All columns of a source, searched by a plan. -/
def Plan.statement (p : Plan) (source : Sql.Source) : Except Error Sql.Statement :=
  (Sql.Statement.ofSource source).search source p

end FullText
