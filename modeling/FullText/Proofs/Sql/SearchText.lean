import FullText.Proofs.Plan.Compiled
import FullText.Proofs.Sql.Template
import FullText.Proofs.Term.Alphabet
import FullText.Sql.AdHoc
import Mathlib

/-!
# The search text in a statement

A search text cannot change the SQL that it is searched with.

* `Expr.queryTexts`, `Statement.queryTexts` — the constants that stand as the text of a query.
* `Expr.Retexted`, `Statement.Retexted` — two expressions, or statements, that differ in the text of the query only.
* `Template.Fits` — a statement is a template with a text in its open places, where it can be read back.
* `Plan.placedTexts` — the two or three places that the statement of a search has for the text of its query.
* `Plan.exists_template` — the statements of one search for all texts that have terms come from one template.
-/

namespace FullText

open Text Sql

/-! ## The texts of queries in an expression -/

/-- The constants that stand as the text of a query. -/
def Sql.Expr.queryTexts : Expr → List Bound
  | .query c (.bound b) => c.queryTexts ++ [b]
  | .query c t => c.queryTexts ++ t.queryTexts
  | .column .. | .derived .. | .bound _ | .zero => []
  | .coalesce l r | .concat l r | .vector l r | .hits l r | .greater l r => l.queryTexts ++ r.queryTexts
  | .configuration l => l.queryTexts
  | .rank _ v q n => v.queryTexts ++ q.queryTexts ++ n.queryTexts

namespace Sql

namespace Expr

/-- An expression without the text of a query. -/
structure Textless (e : Expr) : Prop where
  fixed : Fixed e.fragments
  queryTexts_eq : e.queryTexts = []

theorem textless_ofText {clause : Nat} {role : Role} (h : role ≠ .queryText) (s : String) :
    (Expr.ofText clause role s).Textless := by
  constructor
  · simp [ofText, fragments, Fragment.isOpen, Bound.of, h]
  · rfl

section
variable {v d : Expr} (hv : v.Textless) (hd : d.Textless)
include hv hd

theorem Textless.coalesce : (Expr.coalesce v d).Textless := by
  constructor
  · simp [fragments, Fragment.isOpen, hv.fixed, hd.fixed]
  · rw [queryTexts, hv.queryTexts_eq, hd.queryTexts_eq, List.append_nil]

theorem Textless.concat : (Expr.concat v d).Textless := by
  constructor
  · simp [fragments, Fragment.isOpen, hv.fixed, hd.fixed]
  · rw [queryTexts, hv.queryTexts_eq, hd.queryTexts_eq, List.append_nil]

theorem Textless.vector : (Expr.vector (.configuration v) d).Textless := by
  constructor
  · simp [fragments, Fragment.isOpen, hv.fixed, hd.fixed]
  · rw [queryTexts, queryTexts, hv.queryTexts_eq, hd.queryTexts_eq, List.append_nil]

end

end Expr

/-! ## Documents -/

namespace Source

variable {source : Source}

/-- Whether a source has the column that a search names. -/
def Offers (source : Source) (c : Column) : Prop := (source.column? c.name).isSome

instance (source : Source) (c : Column) : Decidable (source.Offers c) :=
  inferInstanceAs (Decidable ((source.column? c.name).isSome = true))

theorem textless_reference (source : Source) (name : String) : (source.reference name).Textless := by
  cases source <;> exact ⟨by simp [reference, Expr.fragments, Fragment.isOpen], rfl⟩

theorem exists_textExpr {c : Column} (h : source.Offers c) (clause index : Nat) :
    ∃ e, source.textExpr clause index c = .ok e ∧ e.Textless := by
  obtain ⟨tc, htc⟩ := Option.isSome_iff_exists.1 h
  refine ⟨.coalesce (source.reference tc.name) (.ofText clause (.blank index) ""), ?_, ?_⟩
  · simp only [textExpr, columnExpr, htc]
    rfl
  · refine Expr.Textless.coalesce ?_ (Expr.textless_ofText (by simp) _)
    exact source.textless_reference tc.name

theorem exists_extendDocument {columns : List Column} (h : ∀ c ∈ columns, source.Offers c) (clause index : Nat)
    {document : Expr} (hd : document.Textless) :
    ∃ e, source.extendDocument clause index document columns = .ok e ∧ e.Textless := by
  induction columns generalizing index document with
  | nil => exact ⟨document, rfl, hd⟩
  | cons c rest ih =>
    rw [List.forall_mem_cons] at h
    obtain ⟨e, he, htext⟩ := exists_textExpr h.1 clause (index + 1)
    have hblank : (Expr.ofText clause (.separator index) " ").Textless := Expr.textless_ofText (by simp) _
    obtain ⟨e', he', htext'⟩ := ih h.2 (index + 1) ((hd.concat hblank).concat htext)
    refine ⟨e', ?_, htext'⟩
    rw [extendDocument, he]
    exact he'

end Source

end Sql

/-- A document whose columns a source has can be written, and the query does not come into it. -/
theorem Document.exists_expr {d : Document} {source : Source} (hne : d.columns ≠ [])
    (h : ∀ c ∈ d.columns, source.Offers c) (clause : Nat) : ∃ e, d.expr source clause = .ok e ∧ e.Textless := by
  obtain ⟨c, rest, hc⟩ := List.exists_cons_of_ne_nil hne
  rw [hc, List.forall_mem_cons] at h
  obtain ⟨e, he, htext⟩ := Source.exists_textExpr h.1 clause 0
  obtain ⟨e', he', htext'⟩ := Source.exists_extendDocument h.2 clause 0 htext
  have hlanguage : (Expr.ofText clause .documentLanguage d.language).Textless := Expr.textless_ofText (by simp) _
  refine ⟨_, ?_, hlanguage.vector htext'⟩
  simp only [expr, textExpr, hc, he]
  exact bind_eq_ok.2 ⟨e', he', rfl⟩

/-! ## Another text in the place of the query's -/

namespace Sql

/-- That two expressions differ in the text of the query only. -/
def Expr.Retexted (text : String) (e e' : Expr) : Prop := Sql.Retexted text e.fragments e'.fragments e'.queryTexts

theorem Expr.Textless.retexted {e : Expr} (h : e.Textless) (text : String) : e.Retexted text e := by
  rw [Expr.Retexted, h.queryTexts_eq]
  exact h.fixed.retexted

namespace Expr.Retexted

variable {text : String} {e e' v n : Expr} (h : e.Retexted text e') (hv : v.Textless) (hn : n.Textless)
include h hv

theorem hits : (Expr.hits v e).Retexted text (.hits v e') :=
  (hv.retexted text).append (h.sql " @@ ")

include hn in
theorem rank (f : RankFunction) : (Expr.rank f v e n).Retexted text (.rank f v e' n) := by
  have hargs := (((hv.retexted text).sql (f.word ++ "(")).append (h.sql ", ")).append ((hn.retexted text).sql ", ")
  have hall := hargs.append (retexted_nil.sql ")")
  rwa [List.append_nil] at hall

end Expr.Retexted

end Sql

theorem Query.retexted_expr (q : Query) (terms : List Term) (clause : Nat) :
    (q.expr clause).Retexted { q with terms }.text (Query.expr { q with terms } clause) := by
  constructor
  · simp [expr, Expr.ofText, Expr.fragments, Fragment.filled, Bound.filled, Bound.of, Literal.type]
  · simp [expr, Expr.ofText, Expr.fragments, Closing, Fragment.isOpen, Bound.of]
  · rfl

/-! ## Statements -/

namespace Sql

/-- The constants that stand as the text of a query in a statement. -/
def Statement.queryTexts (s : Statement) : List Bound :=
  s.outputs.flatMap (·.expr.queryTexts) ++ s.conjuncts.flatMap Expr.queryTexts ++
    s.sortKeys.flatMap (·.expr.queryTexts)

/-- That two statements differ in the text of the query only. -/
def Statement.Retexted (text : String) (s s' : Statement) : Prop :=
  Sql.Retexted text s.fragments s'.fragments s'.queryTexts

theorem Output.fixed_fragments {o : Output} (h : o.expr.Textless) (earlier : List Output) :
    Fixed (o.fragments earlier) := by
  unfold fragments labelFragments
  split
  · simp [h.fixed, Fragment.isOpen]
  · split <;> simp [h.fixed, Fragment.isOpen]
  · exact h.fixed

theorem outputParts_append (earlier outputs more : List Output) :
    outputParts earlier (outputs ++ more) = outputParts earlier outputs ++ outputParts (earlier ++ outputs) more := by
  induction outputs generalizing earlier with
  | nil => simp [outputParts]
  | cons o rest ih => simp [outputParts, ih]

theorem fixed_of_mem_outputParts {outputs : List Output} (h : ∀ o ∈ outputs, o.expr.Textless) {earlier : List Output}
    {part : List Fragment} (hp : part ∈ outputParts earlier outputs) : Fixed part := by
  induction outputs generalizing earlier with
  | nil => cases hp
  | cons o rest ih =>
    rw [List.forall_mem_cons] at h
    rcases List.mem_cons.1 hp with rfl | hp
    · exact Output.fixed_fragments h.1 earlier
    · exact ih h.2 hp

theorem Table.fixed_columnFragments (t : Table) (c : TableColumn) : Fixed (t.columnFragments c) := by
  simp [columnFragments, Fragment.isOpen]

theorem Source.fixed_fragments (source : Source) : Fixed source.fragments := by
  cases source with
  | subquery t name =>
    have hparts : ∀ part ∈ t.columns.map t.columnFragments, Fixed part := by
      intro part hp
      obtain ⟨c, -, rfl⟩ := List.mem_map.1 hp
      exact t.fixed_columnFragments c
    simp [fragments, fixed_selectFragments hparts, Fragment.isOpen]
  | _ => simp [fragments, Fragment.isOpen]

/-- All columns of a source, with a score by which the rows are ordered and a condition. -/
def Statement.searched (source : Source) (label : Option String) (score hits : Expr) : Statement :=
  { ofSource source with
    outputs := (ofSource source).outputs ++ label.toList.map fun l => { expr := score, label := some l }
    conjuncts := [hits]
    sortKeys := [{ expr := score, descending := true }]
    clauses := 2 }

theorem Statement.rankOutputs_eq (p : Plan) (score : Expr) :
    rankOutputs p score = p.shownLabel?.toList.map fun l => { expr := score, label := some l } := by
  unfold rankOutputs
  split
  · next h => rw [h, Option.toList_some, List.map_cons, List.map_nil]
  · next h => rw [h, Option.toList_none, List.map_nil]

section
variable {source : Source} {label : Option String} {score hits : Expr}

/-- The parts of the columns that `searched` shows. -/
theorem outputParts_searched :
    outputParts [] (Statement.searched source label score hits).outputs =
      outputParts [] (Statement.ofSource source).outputs ++
        label.toList.map fun l => score.fragments ++ [.sql " AS ", .sql (identifier l)] := by
  cases label <;> simp [Statement.searched, outputParts_append, outputParts, Output.fragments, Output.labelFragments]

theorem fragments_searched :
    (Statement.searched source label score hits).fragments =
      selectFragments (outputParts [] (Statement.searched source label score hits).outputs) ++
        (.sql " \nFROM " :: source.fragments) ++ (.sql " \nWHERE " :: hits.fragments) ++
          (.sql " ORDER BY " :: (score.fragments ++ [.sql " DESC"])) := by
  simp [Statement.searched, Statement.fragments, Statement.ofSource, Statement.sourceFragments, separated,
    Statement.conditionFragments, Statement.orderFragments, SortKey.fragments, Statement.limitFragments]

theorem fixed_of_mem_columnParts {part : List Fragment}
    (h : part ∈ outputParts [] (Statement.ofSource source).outputs) : Fixed part := by
  refine fixed_of_mem_outputParts (fun o ho => ?_) h
  obtain ⟨c, -, rfl⟩ := List.mem_map.1 ho
  exact source.textless_reference c.name

theorem queryTexts_columns : (Statement.ofSource source).outputs.flatMap (·.expr.queryTexts) = [] := by
  rw [List.flatMap_eq_nil_iff]
  intro o ho
  obtain ⟨c, -, rfl⟩ := List.mem_map.1 ho
  exact (source.textless_reference c.name).queryTexts_eq

end

section
variable (source : Source) (label : Option String) {text : String} {score score' : Expr}
  (hscore : score.Retexted text score')
include hscore

/-- The text of a query can be changed in what `searched` shows. -/
theorem retexted_outputs (hits hits' : Expr) :
    Retexted text (selectFragments (outputParts [] (Statement.searched source label score hits).outputs))
      (selectFragments (outputParts [] (Statement.searched source label score' hits').outputs))
      ((Statement.searched source label score' hits').outputs.flatMap (·.expr.queryTexts)) := by
  have hcolumns : ∀ part ∈ outputParts [] (Statement.ofSource source).outputs, Fixed part :=
    fun part hp => fixed_of_mem_columnParts hp
  rw [outputParts_searched, outputParts_searched]
  constructor
  · have hmap : (outputParts [] (Statement.ofSource source).outputs).map (List.map (Fragment.filled text)) =
        outputParts [] (Statement.ofSource source).outputs :=
      (List.map_congr_left fun part hp => (hcolumns part hp).map_filled text).trans (List.map_id _)
    rw [map_filled_selectFragments, List.map_append, hmap, List.map_map]
    simp only [Function.comp_def, List.map_append, hscore.map_filled, List.map_cons, Fragment.filled, List.map_nil]
  · refine closing_selectFragments fun part hp => ?_
    rcases List.mem_append.1 hp with hp | hp
    · exact (hcolumns part hp).closing
    · obtain ⟨l, -, rfl⟩ := List.mem_map.1 hp
      exact hscore.closing.append (.cons rfl (.cons rfl trivial))
  · have hnone : (outputParts [] (Statement.ofSource source).outputs).flatMap openBounds = [] := by
      rw [List.flatMap_eq_nil_iff]
      exact fun part hp => (hcolumns part hp).openBounds_eq
    rw [openBounds_selectFragments, List.flatMap_append, hnone, Statement.searched, List.flatMap_append,
      queryTexts_columns]
    simp [hscore.openBounds_eq, List.flatMap_map]

/-- The text of a query can be changed in the score and in the condition. -/
theorem Statement.retexted_searched {hits hits' : Expr} (hhits : hits.Retexted text hits') :
    (searched source label score hits).Retexted text (searched source label score' hits') := by
  have hsource : Sql.Retexted text (.sql " \nFROM " :: source.fragments) (.sql " \nFROM " :: source.fragments) [] :=
    source.fixed_fragments.retexted.sql " \nFROM "
  have hsorted := (hscore.append (retexted_nil.sql " DESC")).sql " ORDER BY "
  have hshown := retexted_outputs source label hscore hits hits'
  have hall := ((hshown.append hsource).append (hhits.sql " \nWHERE ")).append hsorted
  rw [Retexted, fragments_searched, fragments_searched]
  simpa [queryTexts, searched] using hall

end

/-! ## Templates -/

/-- What the statements of a search have in common, whatever its text is. -/
structure Template where
  /-- The SQL with parameters. -/
  sql : String
  /-- The parameters, without a value for the text of the query. -/
  parameters : List (String × Option Literal)
  /-- The SQL with constants written out, between the places of the query's text. -/
  pieces : List String

/-- That a statement has open places, and is a template with a text in them. -/
structure Template.Fits (T : Template) (s : Statement) (text : String) : Prop where
  queryTexts_ne_nil : s.queryTexts ≠ []
  value_eq : ∀ b ∈ s.queryTexts, b.value = .text text
  parametrised_eq : parametrised s.fragments = T.sql
  parameters_eq : Sql.parameters s.fragments = T.parameters.map fun (name, value) => (name, value.getD (.text text))
  /-- Only what stands as the text of a query takes the text. -/
  mem_parameters : ∀ name, (name, none) ∈ T.parameters ↔
    ∃ b ∈ s.queryTexts, parameterName (symbols s.fragments) b.slot = name
  inlined_eq : inlined s.fragments = joined (Literal.text text).inlined T.pieces
  length_pieces : T.pieces.length = s.queryTexts.length + 1
  /-- A literal ends where the next piece begins. -/
  readLiteral_eq : ∀ before after, T.pieces = before ++ after → before ≠ [] → after ≠ [] →
    readLiteral ((Literal.text text).inlined ++ joined (Literal.text text).inlined after).toList =
      some (text.toList, (joined (Literal.text text).inlined after).toList)

/-- The template that a statement comes from. -/
def Statement.template (s : Statement) : Template where
  sql := parametrised s.fragments
  parameters := openParameters s.fragments
  pieces := pieces (symbols s.fragments) s.fragments

theorem Statement.Retexted.fits {text : String} {s s' : Statement} (h : s.Retexted text s') (ht : '%' ∉ text.toList)
    (hopen : s'.queryTexts ≠ []) : s.template.Fits s' text where
  queryTexts_ne_nil := hopen
  value_eq b hb := by
    rw [← h.openBounds_eq, ← h.map_filled, openBounds_filled] at hb
    obtain ⟨c, hc, rfl⟩ := List.mem_map.1 hb
    exact Bound.value_filled (role_of_mem_openBounds hc) text
  parametrised_eq := by rw [← h.map_filled, parametrised_filled, template]
  parameters_eq := by rw [← h.map_filled, parameters_filled, template]
  mem_parameters name := by
    rw [template, mem_openParameters, ← h.openBounds_eq, ← h.map_filled, symbols_filled, openBounds_filled]
    constructor
    · rintro ⟨b, hb, hname⟩
      exact ⟨b.filled text, List.mem_map_of_mem hb, by rw [Bound.slot_filled, hname]⟩
    · intro ⟨b, hb, hname⟩
      obtain ⟨c, hc, rfl⟩ := List.mem_map.1 hb
      exact ⟨c, hc, by rw [← hname, Bound.slot_filled]⟩
  inlined_eq := by rw [← h.map_filled, inlined_filled, template]
  length_pieces := by
    rw [← h.openBounds_eq, ← h.map_filled, openBounds_filled, List.length_map, template, Sql.length_pieces]
  readLiteral_eq _ _ hpieces hbefore hafter := readLiteral_joined_pieces ht h.closing hpieces hbefore hafter

end Sql

/-! ## Plans -/

theorem Options.termsOf_ne_nil {o : Options} {s : String} (h : ∃ c ∈ s.toList, isAlphanumeric c = true) :
    o.termsOf s ≠ [] := by
  rw [ne_eq, termsOf_eq_nil_iff]
  obtain ⟨c, hc, hc'⟩ := h
  exact fun hnone => by simp [hnone c hc] at hc'

theorem Options.percent_not_mem_text {o : Options} {s : String} (operator : Operator) (language : String) :
    '%' ∉ (Query.text ⟨o.termsOf s, operator, language⟩).toList := by
  intro h
  rcases Query.mem_text h with h | ⟨t, ht, hc⟩
  · simp at h
  · have hterm := o.isTermChar_of_mem_termsOf ht hc
    revert hterm
    decide

namespace Plan

/-- Whether a source has the columns that a plan filters and scores by. -/
structure OfferedBy (p : Plan) (source : Source) : Prop where
  filter : ∀ f, p.filter = some f → ∀ c ∈ f.document.columns, source.Offers c
  rank : ∀ c ∈ p.rankedColumns, source.Offers c

variable {source : Source} {o : Options} {name : String} {d : Document}

theorem rankDocument_columns_ne_nil (h : d.columns ≠ []) : (o.rankDocument d).columns ≠ [] := by
  unfold Options.rankDocument
  split
  · simp
  · exact h

/-- The score of a query, by options and over a vector. -/
def scoreOver (o : Options) (v : Expr) (q : Query) : Expr :=
  .rank o.rankFunction v (q.expr 0) (.bound (.of 0 .normalization (.int o.normalization)))

theorem statement_withTerms {q : Query} {v w : Expr} (hv : (o.rankDocument d).expr source 0 = .ok v)
    (hw : d.expr source 1 = .ok w) :
    (withTerms o name d q).statement source =
      .ok (.searched source (withTerms o name d q).shownLabel? (scoreOver o v q) (.hits w (q.expr 1))) := by
  rw [statement, Statement.search_eq_ok rfl rfl]
  refine ⟨scoreOver o v q, .hits w (q.expr 1), ?_, ?_, ?_⟩
  · exact bind_eq_ok.2 ⟨v, hv, rfl⟩
  · exact bind_eq_ok.2 ⟨w, hw, rfl⟩
  · have hkeys (score : Expr) :
        Statement.rankKeys (withTerms o name d q) score = [{ expr := score, descending := true }] := rfl
    simp [Statement.searched, Statement.reading, Statement.ofSource, Statement.rankOutputs_eq, hkeys]

/-- The text of a query at the places that a statement has for it: in the score that is shown, if it is, in the match
and in the score that gives the order. -/
def placedTexts (p : Plan) (text : String) : List Bound :=
  (p.shownLabel?.toList.map (fun _ => 0) ++ [1, 0]).map fun clause => .of clause .queryText (.text text)

theorem queryTexts_withTerms {q : Query} {v w : Expr} (hv : v.Textless) (hw : w.Textless) (source : Source) :
    (Statement.searched source (withTerms o name d q).shownLabel? (scoreOver o v q) (.hits w (q.expr 1))).queryTexts =
      (withTerms o name d q).placedTexts q.text := by
  have hscore : (scoreOver o v q).queryTexts = [.of 0 .queryText (.text q.text)] := by
    simp [scoreOver, Query.expr, Expr.ofText, Expr.queryTexts, hv.queryTexts_eq]
  have hhits : (Expr.hits w (q.expr 1)).queryTexts = [.of 1 .queryText (.text q.text)] := by
    simp [Query.expr, Expr.ofText, Expr.queryTexts, hw.queryTexts_eq]
  rw [placedTexts]
  cases (withTerms o name d q).shownLabel? <;>
    simp [Statement.searched, Statement.queryTexts, queryTexts_columns, hscore, hhits]

theorem placedTexts_ne_nil (p : Plan) (text : String) : p.placedTexts text ≠ [] := by
  simp [placedTexts]

/-- The statements of a search with terms differ in the text of the query only. -/
theorem exists_retexted {q : Query} (hd : d.columns ≠ []) (h : (withTerms o name d q).OfferedBy source) :
    ∃ s : Statement, ∀ terms, ∃ s', (withTerms o name d { q with terms }).statement source = .ok s' ∧
      s.Retexted { q with terms }.text s' ∧
      s'.queryTexts = (withTerms o name d { q with terms }).placedTexts { q with terms }.text := by
  obtain ⟨v, hv, hvtext⟩ := (o.rankDocument d).exists_expr (rankDocument_columns_ne_nil hd) h.rank 0
  obtain ⟨w, hw, hwtext⟩ := d.exists_expr hd (h.filter _ rfl) 1
  have hn : (Expr.bound (.of 0 .normalization (.int o.normalization))).Textless := by
    constructor
    · simp [Expr.fragments, Fragment.isOpen, Bound.of]
    · rfl
  refine ⟨.searched source (withTerms o name d q).shownLabel? (scoreOver o v q) (.hits w (q.expr 1)), fun terms => ?_⟩
  refine ⟨_, statement_withTerms hv hw, ?_, queryTexts_withTerms hvtext hwtext source⟩
  have hscore := (q.retexted_expr terms 0).rank hvtext hn o.rankFunction
  have hhits := (q.retexted_expr terms 1).hits hwtext
  exact Statement.retexted_searched source _ hscore hhits

/-- **The search text cannot change the SQL.**  The statements of a search for any two texts with a letter or digit come
from one template, each with the text of its own query in the places for it. -/
theorem exists_template {columns : List Value} {s : String} {defaults : Options} {overrides : Overrides} {p : Plan}
    (hs : ∃ c ∈ s.toList, isAlphanumeric c = true) (hp : compile columns (some s) defaults overrides = .ok p)
    (hsource : p.OfferedBy source) :
    ∃ T : Template, ∀ t : String, (∃ c ∈ t.toList, isAlphanumeric c = true) →
      ∃ q f st, compile columns (some t) defaults overrides = .ok q ∧ q.filter = some f ∧
        q.statement source = .ok st ∧ st.queryTexts = q.placedTexts f.query.text ∧ T.Fits st f.query.text := by
  obtain ⟨hcolumns, o, ho, hp⟩ := compile_eq_ok.1 hp
  have hterms : ∀ t : String, (∃ c ∈ t.toList, isAlphanumeric c = true) → o.termsOf ((some t).getD "") ≠ [] :=
    fun t ht => Options.termsOf_ne_nil ht
  obtain ⟨name, cs, hname, hcs, hne, rfl⟩ := (ofOptions_of_terms (hterms s hs)).1 hp
  obtain ⟨first, hfirst⟩ := exists_retexted (d := ⟨cs, o.language⟩) hne hsource
  refine ⟨first.template, fun t ht => ?_⟩
  have hplan : ofOptions columns (some t) o =
      .ok (withTerms o name ⟨cs, o.language⟩ ⟨o.termsOf t, o.operator, o.language⟩) :=
    (ofOptions_of_terms (hterms t ht)).2 ⟨name, cs, hname, hcs, hne, rfl⟩
  have hcompile := compile_eq_ok.2 ⟨hcolumns, o, ho, hplan⟩
  obtain ⟨st, hst, hretexted, htexts⟩ := hfirst (o.termsOf t)
  have hopen : st.queryTexts ≠ [] := htexts ▸ placedTexts_ne_nil _ _
  exact ⟨_, _, st, hcompile, rfl, hst, htexts, hretexted.fits (Options.percent_not_mem_text _ _) hopen⟩

/-- An apostrophe in the text, which is doubled in the query and again in the SQL, and any other text in its place. -/
theorem exists_template_apostrophe :
    let source : Source := .table (.ofNames "people" ["name"])
    let vector := "to_tsvector(CAST('simple' AS REGCONFIG), coalesce(people.name, ''))"
    let query := "to_tsquery(CAST('simple' AS REGCONFIG), '''o''''b'':*')"
    ∃ p, compile [.text "name"] (some "o'b") .default .nothing = .ok p ∧ p.OfferedBy source ∧
      ∃ T : Template,
        (∀ t : String, (∃ c ∈ t.toList, isAlphanumeric c = true) →
          ∃ q f st, compile [.text "name"] (some t) .default .nothing = .ok q ∧ q.filter = some f ∧
            q.statement source = .ok st ∧ st.queryTexts = q.placedTexts f.query.text ∧ T.Fits st f.query.text) ∧
        joined "'''o''''b'':*'" T.pieces =
          "SELECT people.name \nFROM people \nWHERE " ++ vector ++ " @@ " ++ query ++
            " ORDER BY ts_rank(" ++ vector ++ ", " ++ query ++ ", 0) DESC" := by
  intro source vector query
  let p : Plan := .withTerms .default "search_by_name" ⟨[⟨"name", none⟩], "simple"⟩ ⟨[⟨"o'b", true⟩], .and, "simple"⟩
  have hs : ∃ c ∈ "o'b".toList, isAlphanumeric c = true := ⟨'o', by decide, by decide⟩
  have hp : compile [.text "name"] (some "o'b") .default .nothing = .ok p := by cbv
  have hoffered : p.OfferedBy source := by
    constructor
    · intro f hf
      cases hf
      decide
    · decide
  obtain ⟨T, hT⟩ := exists_template hs hp hoffered
  refine ⟨p, hp, hoffered, T, hT, ?_⟩
  -- what the template gives for the text itself
  obtain ⟨q, f, st, hq, hf, hst, -, hfits⟩ := hT "o'b" hs
  obtain rfl : p = q := Except.ok.inj (hp.symm.trans hq)
  cases hf
  cases hst
  have hliteral : (Literal.text (Query.text ⟨[⟨"o'b", true⟩], .and, "simple"⟩)).inlined = "'''o''''b'':*'" := by
    decide +kernel
  rw [← hliteral]
  refine hfits.inlined_eq.symm.trans ?_
  decide +kernel

end Plan

end FullText
