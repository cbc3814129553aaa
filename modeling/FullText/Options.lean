import FullText.Ranking
import FullText.Wildcard

/-!
# Search options

`Options` are the settings of a search, all decided.  `OptionField` names them one by one, in the order in which they
are declared.
-/

namespace FullText

/-- The options of a search, by name. -/
inductive OptionField where
  | scopeName | wildcard | operator | normalization | selectRank | language | rankFunction | rankColumns
  deriving DecidableEq, Repr, Inhabited

namespace OptionField

/-- The fields in the order of their declaration. -/
def all : List OptionField :=
  [.scopeName, .wildcard, .operator, .normalization, .selectRank, .language, .rankFunction, .rankColumns]

theorem mem_all (f : OptionField) : f ∈ all := by cases f <;> simp [all]

/-- The field's name, which is also the key of its option. -/
def name : OptionField → String
  | .scopeName => "scope_name"
  | .wildcard => "wildcard"
  | .operator => "operator"
  | .normalization => "normalization"
  | .selectRank => "select_rank"
  | .language => "language"
  | .rankFunction => "rank_function"
  | .rankColumns => "rank_columns"

/-- The short key of the scope name, which goes before its full name. -/
def shortScopeKey : String := "as"

end OptionField

/-- The settings of a search. -/
structure Options where
  scopeName : Option String := none
  wildcard : Wildcard := .all
  operator : Operator := .and
  normalization : Nat := 0
  selectRank : Bool := false
  language : String := "simple"
  rankFunction : RankFunction := .frequency
  rankColumns : Option (List Column) := none
  deriving DecidableEq, Repr, Inhabited

/-- The options of a search that sets none. -/
def Options.default : Options := {}

end FullText
