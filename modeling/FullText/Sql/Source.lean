import FullText.Sql.Literal

/-!
# Sources of rows

A statement reads its rows from a `Source`: a table, a table under another name, or a subquery over a table.  The names
that qualify the source's columns follow from that.
-/

namespace FullText.Sql

/-- What a column holds. -/
inductive ColumnType where
  | text | integer
  deriving DecidableEq, Repr, Inhabited

/-- A column of a table. -/
structure TableColumn where
  name : String
  type : ColumnType := .text
  deriving DecidableEq, Repr, Inhabited

/-- A table, perhaps in a schema; the empty schema is none. -/
structure Table where
  name : String
  columns : List TableColumn
  schema : Option String := none
  deriving DecidableEq, Repr, Inhabited

/-- A table with a text column for each of the names, in the order of their first appearance. -/
def Table.ofNames (name : String) (columnNames : List String) (schema : Option String := none) : Table where
  name := name
  columns := columnNames.eraseDups.map fun n => { name := n }
  schema := schema

/-- The names that lead to the table. -/
def Table.path (t : Table) : List String := (t.schema.filter (· ≠ "")).toList ++ [t.name]

/-- Where the rows of a statement come from. -/
inductive Source where
  | table (t : Table)
  | alias (t : Table) (name : String)
  | subquery (t : Table) (name : String)
  deriving DecidableEq, Repr, Inhabited

namespace Source

/-- The columns that the source offers. -/
def columns : Source → List TableColumn
  | .table t | .alias t _ | .subquery t _ => t.columns

/-- The names that qualify the source's columns. -/
def path : Source → List String
  | .table t => t.path
  | .alias _ name | .subquery _ name => [name]

def column? (s : Source) (name : String) : Option TableColumn := s.columns.find? (·.name == name)

end Source

end FullText.Sql
