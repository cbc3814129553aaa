import FullText.Json
import FullText.Ranking

/-!
# Plans

A `Plan` is a search made ready: what rows must match, how they are scored, under which label the score is shown and
whether it orders the rows.  A search without terms has neither filter nor ranking.  `Plan.display` is its one-line
form, `Plan.describe` its summary as JSON.
-/

namespace FullText

open Text

/-- What a row must match: its document against a query. -/
structure Filter where
  document : Document
  query : Query
  deriving DecidableEq, Repr, Inhabited

/-- A search that is ready to be put into a statement. -/
structure Plan where
  scopeName : String
  filter : Option Filter := none
  ranking : Option Ranking := none
  /-- The label of the projected score. -/
  rankLabel : Option String := none
  /-- Whether the best score comes first. -/
  ordersByRank : Bool := false
  /-- Whether a literal zero is projected in place of a score. -/
  projectsZero : Bool := false
  deriving DecidableEq, Repr, Inhabited

namespace Plan

/-- Whether the plan has nothing to filter by. -/
def isDegenerate (p : Plan) : Bool := p.filter.isNone

/-- The label of the projected score, if it is a name. -/
def shownLabel? (p : Plan) : Option String := p.rankLabel.filter (· ≠ "")

/-- The plan on one line. -/
def display (p : Plan) : String :=
  let terms := p.filter.map fun f => "terms=[" ++ joined ", " (f.query.terms.map Term.display) ++ "]"
  let rank := p.ranking.map fun r => "rank=" ++ r.function.word
  let label := p.shownLabel?.map fun l => "select=" ++ quoted l
  let zero := if p.projectsZero then some "zero_rank" else none
  joined ", " (("QueryPlan(scope=" ++ quoted p.scopeName) :: [terms, rank, label, zero].filterMap id) ++ ")"

/-- The filter in a summary. -/
def describeFilter (f : Filter) : Json := .object [
  ("columns", .array (f.document.columns.map fun c => .text c.qualifiedName)),
  ("language", .text f.query.language),
  ("operator", .text f.query.operator.word),
  ("terms", .array (f.query.terms.map fun t => .text t.display)),
  ("tsquery", .text f.query.text)]

/-- The ranking in a summary. -/
def describeRanking (r : Ranking) : Json := .object [
  ("function", .text r.function.word),
  ("columns", .array (r.document.columns.map fun c => .text c.qualifiedName)),
  ("normalization", .int r.normalization)]

/-- The plan's summary. -/
def describe (p : Plan) : Json := .object [
  ("scope_name", .text p.scopeName),
  ("filter", (p.filter.map describeFilter).getD .null),
  ("rank", (p.ranking.map describeRanking).getD .null),
  ("project_rank_as", Json.ofText? p.rankLabel),
  ("order_by_rank_desc", .bool p.ordersByRank),
  ("zero_rank_projection", .bool p.projectsZero)]

end Plan

end FullText
