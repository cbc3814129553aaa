import FullText.Error

/-!
# Choices from loose values

A member of a choice may be given as such or by its word, in exactly that spelling.
-/

namespace FullText.Value

def toWildcard (v : Value) : Except Error Wildcard :=
  match v.text?.bind Wildcard.ofWord? with
  | some w => .ok w
  | none => .error (.notMember "Wildcard" v)

def toOperator (v : Value) : Except Error Operator :=
  match v.text?.bind Operator.ofWord? with
  | some o => .ok o
  | none => .error (.notMember "Operator" v)

def toRankFunction (v : Value) : Except Error RankFunction :=
  match v.text?.bind RankFunction.ofWord? with
  | some f => .ok f
  | none => .error (.notMember "RankFunction" v)

/-- Marks terms by a value; one that is no policy by itself marks none. -/
def applyWildcard (v : Value) (terms : List Term) : List Term :=
  match v with
  | .wildcard w => w.apply terms
  | _ => terms

@[simp] theorem toWildcard_wildcard (w : Wildcard) : (Value.wildcard w).toWildcard = .ok w := by
  simp [toWildcard, text?]

@[simp] theorem toOperator_operator (o : Operator) : (Value.operator o).toOperator = .ok o := by
  simp [toOperator, text?]

@[simp] theorem toRankFunction_rankFunction (f : RankFunction) : (Value.rankFunction f).toRankFunction = .ok f := by
  simp [toRankFunction, text?]

end FullText.Value
