import FullText.Term

/-!
# Wildcard policies

A `Wildcard` says which terms of a search match as prefixes: none of them, the last one, or all.  `Wildcard.apply`
marks terms accordingly; marks that are already there stay.
-/

namespace FullText

/-- Which terms of a search are marked. -/
inductive Wildcard where
  | none | last | all
  deriving DecidableEq, Repr, Inhabited

namespace Wildcard

/-- The policies from the one that marks least to the one that marks most. -/
def level : Wildcard → Nat
  | .none => 0
  | .last => 1
  | .all => 2

/-- The word that the policy is chosen by. -/
def word : Wildcard → String
  | .none => "none"
  | .last => "last"
  | .all => "all"

/-- The policy's capital label. -/
def label : Wildcard → String
  | .none => "NONE"
  | .last => "LAST"
  | .all => "ALL"

/-- The policies in the order they are listed to a user. -/
def choices : List Wildcard := [.none, .all, .last]

def ofWord? (s : String) : Option Wildcard := choices.find? (·.word == s)

@[simp] theorem ofWord?_word (w : Wildcard) : ofWord? w.word = some w := by cases w <;> rfl

/-- Marks the last term. -/
def markLast : List Term → List Term
  | [] => []
  | [t] => [t.mark]
  | t :: rest => t :: markLast rest

/-- Marks the terms that the policy names. -/
def apply (w : Wildcard) (terms : List Term) : List Term :=
  match w with
  | .none => terms
  | .last => markLast terms
  | .all => terms.map Term.mark

@[simp] theorem apply_nil (w : Wildcard) : w.apply [] = [] := by cases w <;> rfl

theorem text_markLast (terms : List Term) : (markLast terms).map Term.text = terms.map Term.text := by
  fun_induction markLast terms <;> simp_all

theorem text_apply (w : Wildcard) (terms : List Term) : (w.apply terms).map Term.text = terms.map Term.text := by
  cases w with
  | none => rfl
  | last => exact text_markLast terms
  | all => simp [apply, Function.comp_def]

theorem apply_eq_nil {w : Wildcard} {terms : List Term} : w.apply terms = [] ↔ terms = [] := by
  rw [← List.map_eq_nil_iff (f := Term.text), text_apply, List.map_eq_nil_iff]

end Wildcard

end FullText
