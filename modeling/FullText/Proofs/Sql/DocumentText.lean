import FullText.Proofs.Sql.SearchText

/-!
# The text of a document

What the expression of a document comes to on a row, by the rules of SQL for null.

* `Datum`, `Row`, `Expr.datum?` — a row gives each column a text or null, and an expression of texts comes to one.
* `Source.extendDocument_reads` — joining further columns to a text joins what the row gives to them, and null is read
  as the empty text; `Document.textExpr_reads` is the same for all columns of a document.
* `Expr.IsVectorOf` — that an expression is the vector of the texts of columns, each in its place.
* `Source.extendDocument_of_missing` — the first column that a source lacks is the error.
-/

namespace FullText

open Text Sql

/-! ## Rows and values -/

/-- A text that may be null. -/
inductive Datum where
  | null
  | text (s : String)
  deriving DecidableEq, Repr

namespace Datum

/-- The first of two that is not null. -/
def coalesce : Datum → Datum → Datum
  | null, fallback => fallback
  | value, _ => value

/-- One text behind another; null if either is. -/
def concat : Datum → Datum → Datum
  | text s, text t => text (s ++ t)
  | _, _ => null

/-- The text, with null read as the empty one. -/
def textOrEmpty : Datum → String
  | null => ""
  | text s => s

theorem coalesce_empty (x : Datum) : x.coalesce (text "") = text x.textOrEmpty := by cases x <;> rfl

end Datum

/-- What a row gives to a column, by the names that lead to its source and its own. -/
abbrev Row := List String → String → Datum

namespace Sql

/-- What an expression of texts comes to on a row; other expressions come to no text. -/
def Expr.datum? (row : Row) : Expr → Option Datum
  | .column path name | .derived path name => some (row path name)
  | .bound b =>
    match b.value with
    | .text s => some (.text s)
    | .int _ => none
  | .coalesce value fallback => Option.map₂ Datum.coalesce (value.datum? row) (fallback.datum? row)
  | .concat left right => Option.map₂ Datum.concat (left.datum? row) (right.datum? row)
  | _ => none

section
variable (row : Row)

@[simp] theorem Expr.datum?_ofText (clause : Nat) (role : Role) (s : String) :
    (Expr.ofText clause role s).datum? row = some (.text s) := rfl

theorem Expr.datum?_concat {left right : Expr} {s t : String} (hl : left.datum? row = some (.text s))
    (hr : right.datum? row = some (.text t)) : (Expr.concat left right).datum? row = some (.text (s ++ t)) := by
  rw [datum?, hl, hr]
  rfl

theorem Source.datum?_reference (source : Source) (name : String) :
    (source.reference name).datum? row = some (row source.path name) := by
  cases source <;> rfl

end

/-! ## One column -/

namespace Source

variable {source : Source}

/-- What a row gives to a column of a source, with null read as the empty text. -/
def textOf (source : Source) (row : Row) (c : Column) : String := (row source.path c.name).textOrEmpty

/-- The first column that a source lacks. -/
def firstMissing? (source : Source) (columns : List Column) : Option Column :=
  columns.find? fun c => ¬ source.Offers c

theorem firstMissing?_eq_none {columns : List Column} :
    source.firstMissing? columns = none ↔ ∀ c ∈ columns, source.Offers c := by
  simp [firstMissing?]

theorem firstMissing?_cons (c : Column) (rest : List Column) :
    source.firstMissing? (c :: rest) = if source.Offers c then source.firstMissing? rest else some c := by
  unfold firstMissing?
  by_cases h : source.Offers c <;> simp [h]

theorem columnExpr_of_offers {c : Column} (h : source.Offers c) :
    source.columnExpr c.name = .ok (source.reference c.name) := by
  obtain ⟨tc, htc⟩ := Option.isSome_iff_exists.1 h
  have hfind : source.columns.find? (·.name == c.name) = some tc := htc
  have hname := List.find?_some hfind
  rw [columnExpr, htc, ← eq_of_beq hname]

/-- A column of a document is never null. -/
theorem textExpr_reads {c : Column} (h : source.Offers c) (clause index : Nat) :
    ∃ e, source.textExpr clause index c = .ok e ∧ ∀ row, e.datum? row = some (.text (source.textOf row c)) := by
  refine ⟨.coalesce (source.reference c.name) (.ofText clause (.blank index) ""), ?_, fun row => ?_⟩
  · rw [textExpr, columnExpr_of_offers h]
    rfl
  · rw [Expr.datum?, datum?_reference, Expr.datum?_ofText, Option.map₂_some_some, Datum.coalesce_empty, textOf]

theorem textExpr_of_missing {c : Column} (h : ¬ source.Offers c) (clause index : Nat) :
    source.textExpr clause index c = .error (.missingColumn c.name) := by
  rw [Offers, Bool.not_eq_true, Option.isSome_eq_false_iff, Option.isNone_iff_eq_none] at h
  rw [textExpr, columnExpr, h]
  rfl

/-- The first of several columns is missing, or the error lies with the others. -/
theorem bind_textExpr_of_missing {c c' : Column} {rest : List Column} (h : source.firstMissing? (c' :: rest) = some c)
    (clause index : Nat) {next : Expr → Except Error Expr}
    (hnext : source.firstMissing? rest = some c → ∀ e, next e = .error (.missingColumn c.name)) :
    (source.textExpr clause index c' >>= next) = .error (.missingColumn c.name) := by
  rw [firstMissing?_cons] at h
  by_cases hc : source.Offers c'
  · obtain ⟨e, he, -⟩ := textExpr_reads hc clause index
    rw [if_pos hc] at h
    rw [he]
    exact hnext h e
  · rw [if_neg hc] at h
    cases h
    rw [textExpr_of_missing hc]
    rfl

/-! ## Further columns -/

/-- What is joined to the first text may be joined to it beforehand. -/
theorem joined_append_cons (separator s t : String) (rest : List String) :
    joined separator ((s ++ separator ++ t) :: rest) = joined separator (s :: t :: rest) := by
  cases rest with
  | nil => rfl
  | cons u rest => simp only [joined_cons_cons, String.append_assoc]

/-- By induction on the columns: the document so far is a text, and stays one with each column. -/
theorem extendDocument_reads {columns : List Column} (h : ∀ c ∈ columns, source.Offers c) (clause index : Nat)
    {document : Expr} {text : Row → String} (hd : ∀ row, document.datum? row = some (.text (text row))) :
    ∃ e, source.extendDocument clause index document columns = .ok e ∧
      ∀ row, e.datum? row = some (.text (joined " " (text row :: columns.map (source.textOf row)))) := by
  induction columns generalizing index document text with
  | nil => exact ⟨document, rfl, hd⟩
  | cons c rest ih =>
    rw [List.forall_mem_cons] at h
    obtain ⟨e, he, hcolumn⟩ := textExpr_reads h.1 clause (index + 1)
    have hnext (row : Row) :
        (Expr.concat (.concat document (.ofText clause (.separator index) " ")) e).datum? row =
          some (.text (text row ++ " " ++ source.textOf row c)) :=
      Expr.datum?_concat row (Expr.datum?_concat row (hd row) (Expr.datum?_ofText row _ _ _)) (hcolumn row)
    obtain ⟨e', he', hrest⟩ := ih h.2 (index + 1) hnext
    refine ⟨e', ?_, fun row => ?_⟩
    · rw [extendDocument, he]
      exact he'
    · rw [hrest row, joined_append_cons, List.map_cons]

theorem extendDocument_of_missing {columns : List Column} {c : Column} (h : source.firstMissing? columns = some c)
    (clause index : Nat) (document : Expr) :
    source.extendDocument clause index document columns = .error (.missingColumn c.name) := by
  induction columns generalizing index document with
  | nil => cases h
  | cons c' rest ih =>
    rw [extendDocument]
    exact bind_textExpr_of_missing h clause (index + 1) fun hrest e => ih hrest (index + 1) _

end Source

/-- That an expression is the vector of the texts of columns, each in its place. -/
def Expr.IsVectorOf (source : Source) (columns : List Column) (e : Expr) : Prop :=
  ∃ configuration document, e = .vector configuration document ∧
    ∀ row, document.datum? row = some (.text (joined " " (columns.map (source.textOf row))))

end Sql

/-! ## Documents -/

namespace Document

variable {d : Document} {source : Source}

theorem textExpr_reads (hne : d.columns ≠ []) (h : ∀ c ∈ d.columns, source.Offers c) (clause : Nat) :
    ∃ text, d.textExpr source clause = .ok text ∧
      ∀ row, text.datum? row = some (.text (joined " " (d.columns.map (source.textOf row)))) := by
  obtain ⟨c, rest, hc⟩ := List.exists_cons_of_ne_nil hne
  rw [hc, List.forall_mem_cons] at h
  obtain ⟨e, he, hfirst⟩ := Source.textExpr_reads h.1 clause 0
  obtain ⟨e', he', hrest⟩ := Source.extendDocument_reads h.2 clause 0 hfirst
  refine ⟨e', ?_, fun row => ?_⟩
  · simp only [textExpr, hc, he]
    exact he'
  · rw [hrest row, hc, List.map_cons]

theorem textExpr_of_missing {c : Column} (h : source.firstMissing? d.columns = some c) (clause : Nat) :
    d.textExpr source clause = .error (.missingColumn c.name) := by
  unfold textExpr
  cases hd : d.columns with
  | nil =>
    rw [hd] at h
    cases h
  | cons c' rest =>
    rw [hd] at h
    exact Source.bind_textExpr_of_missing h clause 0 fun hrest e => Source.extendDocument_of_missing hrest clause 0 e

theorem expr_reads (hne : d.columns ≠ []) (h : ∀ c ∈ d.columns, source.Offers c) (clause : Nat) :
    ∃ text, d.expr source clause =
        .ok (.vector (.configuration (.ofText clause .documentLanguage d.language)) text) ∧
      ∀ row, text.datum? row = some (.text (joined " " (d.columns.map (source.textOf row)))) := by
  obtain ⟨text, htext, hreads⟩ := textExpr_reads hne h clause
  refine ⟨text, ?_, hreads⟩
  rw [expr, htext]
  rfl

/-- The expression of a document is a vector over its columns. -/
theorem exists_isVectorOf (hne : d.columns ≠ []) (h : ∀ c ∈ d.columns, source.Offers c) (clause : Nat) :
    ∃ e, d.expr source clause = .ok e ∧ e.IsVectorOf source d.columns := by
  obtain ⟨text, htext, hreads⟩ := expr_reads hne h clause
  exact ⟨_, htext, _, text, rfl, hreads⟩

theorem expr_of_missing {c : Column} (h : source.firstMissing? d.columns = some c) (clause : Nat) :
    d.expr source clause = .error (.missingColumn c.name) := by
  rw [expr, textExpr_of_missing h]
  rfl

/-- **A document is the text of its columns.**  On every row the expression of a document comes to what the row gives to
the columns in their order, with null read as the empty text and a blank between neighbours.  A source that lacks some
of the columns is refused for the first of them, and a document read from values is refused for nothing else. -/
theorem expr_reads_columns (source : Source) (clause : Nat) :
    (∀ d : Document, d.columns ≠ [] → (∀ c ∈ d.columns, source.Offers c) →
      ∃ text, d.expr source clause =
          .ok (.vector (.configuration (.ofText clause .documentLanguage d.language)) text) ∧
        ∀ row : Row, text.datum? row =
          some (.text (joined " " (d.columns.map fun c => (row source.path c.name).textOrEmpty)))) ∧
    (∀ (d : Document) (c : Column), source.firstMissing? d.columns = some c →
      d.expr source clause = .error (.missingColumn c.name)) ∧
    (∀ values language d, Document.ofValues values language = .ok d → ∀ e, d.expr source clause = .error e →
      ∃ c, source.firstMissing? d.columns = some c ∧ e = .missingColumn c.name) := by
  refine ⟨fun d hne h => expr_reads hne h clause, fun d c h => expr_of_missing h clause,
    fun values language d hd e he => ?_⟩
  obtain ⟨cs, -, hne, rfl⟩ := ofValues_eq_ok.1 hd
  cases hmissing : source.firstMissing? cs with
  | some c =>
    rw [expr_of_missing hmissing] at he
    exact ⟨c, rfl, (Except.error.inj he).symm⟩
  | none =>
    obtain ⟨text, hok, -⟩ := expr_reads (d := ⟨cs, language⟩) hne (Source.firstMissing?_eq_none.1 hmissing) clause
    rw [hok] at he
    cases he

/-- A column that is named twice, once with a table, around one that is null; and a source that lacks two of three. -/
theorem expr_reads_columns_around_null :
    let d : Document := ⟨[⟨"title", none⟩, ⟨"note", none⟩, ⟨"title", some "posts"⟩], "english"⟩
    let source : Source := .table (.ofNames "posts" ["note", "title"])
    let narrow : Source := .subquery (.ofNames "posts" ["title"]) "p"
    let row : Row := fun _ name => if name = "title" then .text "Lean" else .null
    Document.ofValues [.text "title", .text "note", .text "posts.title"] "english" = .ok d ∧
    (d.columns ≠ [] ∧ ∀ c ∈ d.columns, source.Offers c) ∧
    (∃ text, d.expr source 0 = .ok (.vector (.configuration (.ofText 0 .documentLanguage "english")) text) ∧
      text.datum? row = some (.text "Lean  Lean")) ∧
    (narrow.firstMissing? d.columns = some ⟨"note", none⟩ ∧ d.expr narrow 0 = .error (.missingColumn "note")) ∧
    ∃ c, narrow.firstMissing? d.columns = some c ∧ Error.missingColumn "note" = .missingColumn c.name := by
  intro d source narrow row
  have hd : Document.ofValues [.text "title", .text "note", .text "posts.title"] "english" = .ok d := rfl
  have hne : d.columns ≠ [] := List.cons_ne_nil _ _
  have hoffers : ∀ c ∈ d.columns, source.Offers c := by decide
  have hmissing : narrow.firstMissing? d.columns = some ⟨"note", none⟩ := rfl
  obtain ⟨text, htext, hreads⟩ := (expr_reads_columns source 0).1 d hne hoffers
  obtain ⟨-, hrefused, honly⟩ := expr_reads_columns narrow 0
  have herror : d.expr narrow 0 = .error (.missingColumn "note") := hrefused d ⟨"note", none⟩ hmissing
  exact ⟨hd, ⟨hne, hoffers⟩, ⟨text, htext, hreads row⟩, ⟨hmissing, herror⟩, honly _ _ d hd _ herror⟩

end Document

end FullText
