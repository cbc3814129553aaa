import FullText.Column
import FullText.Query

/-!
# Documents and rankings

A `Document` is what a search looks at: columns, read as one text under a language's configuration.  A `Ranking` scores
a document against a query with one of the two rank functions.
-/

namespace FullText

/-- The columns that are searched as one text. -/
structure Document where
  columns : List Column
  language : String
  deriving DecidableEq, Repr, Inhabited

/-- The rank functions: by frequency of the terms, or by how close together they stand. -/
inductive RankFunction where
  | frequency | coverDensity
  deriving DecidableEq, Repr, Inhabited

namespace RankFunction

/-- The function's name, by which it is also chosen. -/
def word : RankFunction → String
  | .frequency => "ts_rank"
  | .coverDensity => "ts_rank_cd"

/-- The function's capital label. -/
def label : RankFunction → String
  | .frequency => "TS_RANK"
  | .coverDensity => "TS_RANK_CD"

def choices : List RankFunction := [.frequency, .coverDensity]

def ofWord? (s : String) : Option RankFunction := choices.find? (·.word == s)

@[simp] theorem ofWord?_word (f : RankFunction) : ofWord? f.word = some f := by cases f <;> rfl

end RankFunction

/-- The score of a document against a query; `normalization` is the function's bit mask. -/
structure Ranking where
  function : RankFunction
  document : Document
  query : Query
  normalization : Int
  deriving DecidableEq, Repr, Inhabited

end FullText
