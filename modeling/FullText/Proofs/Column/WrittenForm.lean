import FullText.Column
import Mathlib.Data.List.DropRight

/-!
# The written form of a column

What is lost between a column and its written form: nothing but an empty table part.

* `trim_trim` — a trimmed text has no blanks to lose.
* `Column.NamedBy` — how a trimmed text names a column: its last period, if it has one, ends the table's part.
  `Column.namedBy_parse` says that this is what is read, and all later facts are by cases on it.
* `Column.ReadsBack`, `Column.readsBack_parse_iff` — a column that was read is read back from its written form unless
  its table part is empty.
* `Column.parse_qualifiedName_parse_iff` — which texts these are, what becomes of them, and that all others are told
  apart by their written forms.
-/

namespace FullText

open Text

/-! ## Trimmed texts -/

section
variable {α : Type} {p : α → Bool}

theorem dropWhile_of_prefix_dropWhile {xs ys : List α} (h : ys <+: xs.dropWhile p) : ys.dropWhile p = ys := by
  cases ys with
  | nil => rfl
  | cons y kept =>
    obtain ⟨more, hmore⟩ := h
    have hy : p y = false := by simpa [← hmore] using List.head?_dropWhile_not p xs
    exact List.dropWhile_cons_of_neg (by simp [hy])

theorem trim_eq_rdropWhile (xs : List α) : trim p xs = (xs.dropWhile p).rdropWhile p := rfl

theorem trim_trim (xs : List α) : trim p (trim p xs) = trim p xs := by
  have hfront : (trim p xs).dropWhile p = trim p xs :=
    dropWhile_of_prefix_dropWhile (List.rdropWhile_prefix p (xs.dropWhile p))
  calc trim p (trim p xs)
    _ = (trim p xs).rdropWhile p := by rw [trim_eq_rdropWhile (trim p xs), hfront]
    _ = trim p xs := List.rdropWhile_idempotent p (xs.dropWhile p)

theorem mem_of_mem_trim {xs : List α} {x : α} (h : x ∈ trim p xs) : x ∈ xs :=
  (List.dropWhile_suffix p).subset ((List.rdropWhile_prefix p (xs.dropWhile p)).subset h)

end

theorem toList_strip (s : String) : (strip s).toList = trim isBlank s.toList := by rw [strip, String.toList_ofList]

namespace Column

/-! ## What a text names -/

/-- How a text without blanks at its ends names a column. -/
inductive NamedBy : List Char → Column → Prop where
  | plain {name : List Char} (h : '.' ∉ name) : NamedBy name ⟨String.ofList name, none⟩
  | dotted (table : List Char) {name : List Char} (h : '.' ∉ name) :
      NamedBy (table ++ '.' :: name) ⟨String.ofList name, some (String.ofList table)⟩

theorem namedBy_parse (s : String) : NamedBy (strip s).toList (parse s) := by
  simp only [toList_strip, parse]
  cases hcut : cutAtLast '.' (trim isBlank s.toList) with
  | none => exact .plain (cutAtLast_eq_none.1 hcut)
  | some parts =>
    obtain ⟨table, name⟩ := parts
    rw [cutAtLast_eq_some hcut]
    exact .dotted table (not_mem_of_cutAtLast hcut)

theorem parse_strip (s : String) : parse (strip s) = parse s := by
  simp only [parse, toList_strip, trim_trim]

theorem qualifiedName_of_table_empty {c : Column} (h : c.table = some "") : c.qualifiedName = c.name := by
  simp [qualifiedName, h]

section
variable {cs : List Char} {c : Column}

theorem NamedBy.dot_not_mem_name (h : NamedBy cs c) : '.' ∉ c.name.toList := by
  cases h with
  | plain h => rwa [String.toList_ofList]
  | dotted table h => rwa [String.toList_ofList]

theorem NamedBy.table_eq_none (h : NamedBy cs c) (hcs : '.' ∉ cs) : c.table = none := by
  cases h with
  | plain h => rfl
  | dotted table h => exact absurd (List.mem_append_right table List.mem_cons_self) hcs

theorem NamedBy.table_eq_empty_iff (h : NamedBy cs c) :
    c.table = some "" ↔ ∃ name, cs = '.' :: name ∧ '.' ∉ name := by
  cases h with
  | plain h =>
    refine ⟨nofun, ?_⟩
    rintro ⟨name, rfl, -⟩
    exact absurd List.mem_cons_self h
  | @dotted table name h =>
    constructor
    · intro hempty
      have hnil : table = [] := String.ofList_eq_empty_iff.1 (Option.some.inj hempty)
      exact ⟨name, by rw [hnil, List.nil_append], h⟩
    · -- the first period is the last one
      rintro ⟨name', hcs, hname'⟩
      cases table with
      | nil => rfl
      | cons d table =>
        rw [List.cons_append, List.cons.injEq] at hcs
        exact absurd (hcs.2 ▸ List.mem_append_right table List.mem_cons_self) hname'

/-- Only an empty table part is not written. -/
theorem NamedBy.qualifiedName_eq (h : NamedBy cs c) (htable : c.table ≠ some "") :
    c.qualifiedName = String.ofList cs := by
  cases h with
  | plain h => rfl
  | @dotted table name h =>
    have hne : String.ofList table ≠ "" := fun hempty => htable (congrArg some hempty)
    calc qualifiedName ⟨String.ofList name, some (String.ofList table)⟩
      _ = String.ofList table ++ "." ++ String.ofList name := if_neg hne
      _ = String.ofList (table ++ ['.'] ++ name) := by rw [String.ofList_append, String.ofList_append]
      _ = String.ofList (table ++ '.' :: name) := by rw [List.append_assoc, List.singleton_append]

end

/-! ## Reading back -/

/-- That a column is read back from its written form. -/
def ReadsBack (c : Column) : Prop := parse c.qualifiedName = c

instance : DecidablePred ReadsBack := fun c =>
  inferInstanceAs (Decidable (parse c.qualifiedName = c))

theorem qualifiedName_parse {s : String} (h : (parse s).table ≠ some "") : (parse s).qualifiedName = strip s := by
  rw [(namedBy_parse s).qualifiedName_eq h, String.ofList_toList]

/-- A text without a period names no table. -/
theorem table_parse_of_dotless {s : String} (h : '.' ∉ s.toList) : (parse s).table = none := by
  refine (namedBy_parse s).table_eq_none fun hdot => h ?_
  rw [toList_strip] at hdot
  exact mem_of_mem_trim hdot

theorem table_parse_qualifiedName {s : String} (h : (parse s).table = some "") :
    (parse (parse s).qualifiedName).table = none := by
  rw [qualifiedName_of_table_empty h]
  exact table_parse_of_dotless (namedBy_parse s).dot_not_mem_name

theorem readsBack_parse_iff (s : String) : (parse s).ReadsBack ↔ (parse s).table ≠ some "" := by
  constructor
  · intro hback hempty
    have hnone : (parse (parse s).qualifiedName).table = none := table_parse_qualifiedName hempty
    rw [show parse (parse s).qualifiedName = parse s from hback, hempty] at hnone
    cases hnone
  · intro h
    calc parse (parse s).qualifiedName
      _ = parse (strip s) := by rw [qualifiedName_parse h]
      _ = parse s := parse_strip s

/-- **A column that was read is read back unless its table part is empty**, which it is for a text that begins with its
only period; it is then written as the name alone.  All other columns are written as the text that they were read from,
without the blanks around it, and told apart by how they are written. -/
theorem parse_qualifiedName_parse_iff (s : String) :
    (parse (parse s).qualifiedName = parse s ↔ (parse s).table ≠ some "") ∧
    ((parse s).table = some "" ↔ ∃ name, (strip s).toList = '.' :: name ∧ '.' ∉ name) ∧
    ((parse s).table = some "" →
      (parse s).qualifiedName = (parse s).name ∧ (parse (parse s).qualifiedName).table = none) ∧
    ((parse s).table ≠ some "" → (parse s).qualifiedName = strip s) ∧
    ∀ s', (parse s).table ≠ some "" → (parse s').table ≠ some "" →
      ((parse s).qualifiedName = (parse s').qualifiedName ↔ parse s = parse s') := by
  refine ⟨readsBack_parse_iff s, (namedBy_parse s).table_eq_empty_iff, fun h => ?_, fun h => qualifiedName_parse h,
    fun s' h h' => ⟨fun hname => ?_, fun heq => ?_⟩⟩
  · exact ⟨qualifiedName_of_table_empty h, table_parse_qualifiedName h⟩
  · have hback : (parse s).ReadsBack := (readsBack_parse_iff s).2 h
    have hback' : (parse s').ReadsBack := (readsBack_parse_iff s').2 h'
    rw [← hback, hname, hback']
  · rw [heq]

/-- A period before the name alone is lost; periods and blanks inside a table part are not. -/
theorem parse_qualifiedName_parse_iff_dots :
    (parse (parse "\t. body\n").qualifiedName).table = none ∧
    (parse " my app..posts. body\n").qualifiedName = "my app..posts. body" ∧
    parse " my app..posts. body\n" = parse "my app..posts. body\n" := by
  have hempty : (parse "\t. body\n").table = some "" := by decide
  have h : (parse " my app..posts. body\n").table ≠ some "" := by decide
  have h' : (parse "my app..posts. body\n").table ≠ some "" := by decide
  have hname : (parse " my app..posts. body\n").qualifiedName = (parse "my app..posts. body\n").qualifiedName := by
    decide
  have hstrip : strip " my app..posts. body\n" = "my app..posts. body" := by decide
  obtain ⟨-, -, hlost, -, -⟩ := parse_qualifiedName_parse_iff "\t. body\n"
  obtain ⟨-, -, -, hwritten, htold⟩ := parse_qualifiedName_parse_iff " my app..posts. body\n"
  exact ⟨(hlost hempty).2, (hwritten h).trans hstrip, (htold _ h h').1 hname⟩

end Column

end FullText
