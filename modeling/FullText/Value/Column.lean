import FullText.Error

/-!
# Columns from loose values

A column may be given as such or by its written form; a blank text and every other value name no column.
-/

namespace FullText

open Text

/-- The column that a value names. -/
def Value.toColumn (v : Value) : Except Error Column :=
  match v with
  | .column c => .ok c
  | _ =>
    match v.text? with
    | some s => if s.toList.all isBlank then .error (.notColumn v) else .ok (Column.parse s)
    | none => .error (.notColumn v)

@[simp] theorem Value.toColumn_column (c : Column) : (Value.column c).toColumn = .ok c := rfl

/-- The columns that some values name; the first value that names none is the error. -/
def columnsOf : List Value → Except Error (List Column)
  | [] => .ok []
  | v :: rest => do
    let c ← v.toColumn
    let cs ← columnsOf rest
    return c :: cs

@[simp] theorem columnsOf_nil : columnsOf [] = .ok [] := rfl

theorem columnsOf_columns (cs : List Column) : columnsOf (cs.map Value.column) = .ok cs := by
  induction cs with
  | nil => rfl
  | cons c rest ih => simp [columnsOf, ih]; rfl

end FullText
