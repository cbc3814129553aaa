import FullText.Sql.Print

/-!
# Ad-hoc tables

A plan can be shown as SQL without any schema: over a table made for it, with a text column for each name that is
mentioned.
-/

namespace FullText

open Sql

/-- A table with a text column for each of the columns' names, in the order of their first appearance. -/
def Sql.Table.ofColumns (name : String) (columns : List Column) : Table := .ofNames name (columns.map Column.name)

namespace Plan

/-- The SQL of the plan over a table of such columns, with its constants written out. -/
def sqlOver (p : Plan) (tableName : String) (columns : List Column) : Except Error String := do
  let s ← p.statement (.table (Table.ofColumns tableName columns))
  return inlined s.fragments

/-- The columns that the plan scores by. -/
def rankedColumns (p : Plan) : List Column := (p.ranking.map fun r => r.document.columns).getD []

end Plan

end FullText
