import FullText.Text.Blank

/-!
# Columns

A `Column` names a column, perhaps of a table.  `Column.parse` reads the usual written form: blanks around it do not
count, and the last period ends the table's part, so the table may itself be a dotted path and may be empty.
`qualifiedName` writes a column; an empty table part is left out.
-/

namespace FullText

open Text

/-- A column, with the table that it belongs to if one is named. -/
structure Column where
  name : String
  table : Option String := none
  deriving DecidableEq, Repr, Inhabited

/-- Cuts a text at the last occurrence of a character, which goes to neither side. -/
def cutAtLast (x : Char) : List Char → Option (List Char × List Char)
  | [] => none
  | c :: rest =>
    match cutAtLast x rest with
    | some (before, after) => some (c :: before, after)
    | none => if c = x then some ([], rest) else none

theorem cutAtLast_eq_some {x : Char} {cs before after : List Char} (h : cutAtLast x cs = some (before, after)) :
    cs = before ++ x :: after := by
  induction cs generalizing before with
  | nil => simp [cutAtLast] at h
  | cons c rest ih =>
    simp only [cutAtLast] at h
    split at h
    · next b a heq =>
      simp only [Option.some.injEq, Prod.mk.injEq] at h
      obtain ⟨rfl, rfl⟩ := h
      simp [ih heq]
    · split at h
      · next hc =>
        simp only [Option.some.injEq, Prod.mk.injEq] at h
        obtain ⟨rfl, rfl⟩ := h
        simp [hc]
      · cases h

theorem cutAtLast_eq_none {x : Char} {cs : List Char} : cutAtLast x cs = none ↔ x ∉ cs := by
  induction cs with
  | nil => simp [cutAtLast]
  | cons c rest ih =>
    simp only [cutAtLast]
    split
    · next heq =>
      have : ¬ (x ∉ rest) := fun h => by simp [ih.2 h] at heq
      simp only [Classical.not_not] at this
      simp [this]
    · next heq =>
      have hx := ih.1 heq
      by_cases hc : c = x
      · simp [hc]
      · simp [hc, hx, Ne.symm hc]

theorem not_mem_of_cutAtLast {x : Char} {cs before after : List Char} (h : cutAtLast x cs = some (before, after)) :
    x ∉ after := by
  induction cs generalizing before with
  | nil => cases h
  | cons c rest ih =>
    simp only [cutAtLast] at h
    split at h
    · next b a heq =>
      simp only [Option.some.injEq, Prod.mk.injEq] at h
      exact ih (h.2 ▸ heq)
    · next heq =>
      split at h
      · simp only [Option.some.injEq, Prod.mk.injEq] at h
        exact h.2 ▸ cutAtLast_eq_none.1 heq
      · cases h

namespace Column

/-- Reads a column from its written form. -/
def parse (s : String) : Column :=
  let cs := trim isBlank s.toList
  match cutAtLast '.' cs with
  | some (table, name) => ⟨String.ofList name, some (String.ofList table)⟩
  | none => ⟨String.ofList cs, none⟩

/-- The column's name after its table's, if that is not empty. -/
def qualifiedName (c : Column) : String :=
  match c.table with
  | none => c.name
  | some table => if table = "" then c.name else table ++ "." ++ c.name

end Column

end FullText
