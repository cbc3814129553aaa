import FullText.Term
import FullText.Text.Join

/-!
# Queries

A `Query` joins terms by one operator, under the text search configuration of a language.  `Query.text` is its text in
the notation of `to_tsquery`: the lexemes with the operator's sign between them.
-/

namespace FullText

open Text

/-- How the terms of a query are joined. -/
inductive Operator where
  | and | or
  deriving DecidableEq, Repr, Inhabited

namespace Operator

/-- The word that the operator is chosen by. -/
def word : Operator → String
  | .and => "and"
  | .or => "or"

/-- The operator's capital label. -/
def label : Operator → String
  | .and => "AND"
  | .or => "OR"

/-- The operator's sign in the text of a query. -/
def symbol : Operator → String
  | .and => "&"
  | .or => "|"

def choices : List Operator := [.and, .or]

def ofWord? (s : String) : Option Operator := choices.find? (·.word == s)

@[simp] theorem ofWord?_word (o : Operator) : ofWord? o.word = some o := by cases o <;> rfl

end Operator

/-- Terms joined by one operator. -/
structure Query where
  terms : List Term
  operator : Operator
  language : String
  deriving DecidableEq, Repr, Inhabited

/-- The query in the notation of `to_tsquery`. -/
def Query.text (q : Query) : String := joined (" " ++ q.operator.symbol ++ " ") (q.terms.map Term.lexeme)

end FullText
