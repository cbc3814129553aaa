import FullText.Proofs.Plan.Rejection
import FullText.Proofs.Sql.SearchText

/-!
# Which plans filter

A plan is added to a statement to keep the rows that its filter hits.

* `Document.exists_expr_iff` — a document can be written over a source just when it has columns and the source offers
  them all.
* `Statement.exists_search_iff` — so can a plan that has both a filter and a ranking; any other plan always can.
* `Statement.FilteredBy` — that a statement keeps what another one keeps and the filter of a plan hits.
* `Plan.ranking_eq_none_iff` — a compiled plan has a filter and a ranking, or neither.
* `Statement.filteredBy_iff` — a plan filters just when it has both, and a filter without a ranking is as good as none.
-/

namespace FullText

open Text Sql

/-! ## What can be written over a source -/

/-- That a document has columns, and a source offers them all. -/
structure Document.ReadableFrom (d : Document) (source : Source) : Prop where
  columns_ne_nil : d.columns ≠ []
  offered : ∀ c ∈ d.columns, source.Offers c

/-- That the documents of a plan can be read from a source. -/
structure Plan.ReadableFrom (p : Plan) (source : Source) : Prop where
  filter : ∀ f, p.filter = some f → f.document.ReadableFrom source
  ranking : ∀ r, p.ranking = some r → r.document.ReadableFrom source

section
variable {source : Source} {clause index : Nat} {c : Column} {e : Expr}

theorem Sql.Source.offers_of_textExpr (h : source.textExpr clause index c = .ok e) : source.Offers c := by
  obtain ⟨e', he', -⟩ := bind_eq_ok.1 h
  unfold columnExpr at he'
  unfold Offers
  cases hc : source.column? c.name with
  | none => simp [hc] at he'
  | some tc => rfl

theorem Sql.Source.offers_of_extendDocument {columns : List Column} {document : Expr}
    (h : source.extendDocument clause index document columns = .ok e) : ∀ c ∈ columns, source.Offers c := by
  induction columns generalizing index document with
  | nil => exact List.forall_mem_nil _
  | cons c rest ih =>
    obtain ⟨e', he', hrest⟩ := bind_eq_ok.1 h
    rw [List.forall_mem_cons]
    exact ⟨offers_of_textExpr he', ih hrest⟩

theorem Document.readableFrom_of_expr {d : Document} (h : d.expr source clause = .ok e) : d.ReadableFrom source := by
  obtain ⟨text, htext, -⟩ := bind_eq_ok.1 h
  unfold textExpr at htext
  cases hd : d.columns with
  | nil => simp [hd] at htext
  | cons c rest =>
    rw [hd] at htext
    obtain ⟨first, hfirst, hrest⟩ := bind_eq_ok.1 htext
    constructor
    · simp [hd]
    · rw [hd, List.forall_mem_cons]
      exact ⟨Source.offers_of_textExpr hfirst, Source.offers_of_extendDocument hrest⟩

theorem Document.exists_expr_iff {d : Document} (clause : Nat) :
    (∃ e, d.expr source clause = .ok e) ↔ d.ReadableFrom source := by
  constructor
  · rintro ⟨e, he⟩
    exact readableFrom_of_expr he
  · intro h
    obtain ⟨e, he, -⟩ := exists_expr h.columns_ne_nil h.offered clause
    exact ⟨e, he⟩

theorem Filter.exists_expr_iff {f : Filter} (clause : Nat) :
    (∃ hits, f.expr source clause = .ok hits) ↔ f.document.ReadableFrom source := by
  rw [← Document.exists_expr_iff clause]
  exact exists_bind_pure_eq_ok

theorem Ranking.exists_expr_iff {r : Ranking} (clause : Nat) :
    (∃ score, r.expr source clause = .ok score) ↔ r.document.ReadableFrom source := by
  rw [← Document.exists_expr_iff clause]
  exact exists_bind_pure_eq_ok

end

namespace Plan

variable {source : Source} {p : Plan}

theorem readableFrom_iff {f : Filter} {r : Ranking} (hf : p.filter = some f) (hr : p.ranking = some r) :
    p.ReadableFrom source ↔ f.document.ReadableFrom source ∧ r.document.ReadableFrom source := by
  constructor
  · intro h
    exact ⟨h.filter f hf, h.ranking r hr⟩
  · rintro ⟨hfilter, hranking⟩
    constructor
    · intro f' hf'
      obtain rfl := Option.some.inj (hf.symm.trans hf')
      exact hfilter
    · intro r' hr'
      obtain rfl := Option.some.inj (hr.symm.trans hr')
      exact hranking

/-- A compiled plan has a filter and a ranking, or neither. -/
theorem ranking_eq_none_iff {columns : List Value} {text : Option String} {defaults : Options} {overrides : Overrides}
    (hp : compile columns text defaults overrides = .ok p) : p.ranking = none ↔ p.filter = none := by
  obtain ⟨-, o, -, hplan⟩ := compile_eq_ok.1 hp
  by_cases h : HasTerms text
  · obtain ⟨name, cs, -, -, -, rfl⟩ := (ofOptions_of_hasTerms h).1 hplan
    simp [withTerms]
  · obtain ⟨name, -, rfl⟩ := (ofOptions_of_not_hasTerms h).1 hplan
    simp [withoutTerms]

theorem isDegenerate_eq_false : p.isDegenerate = false ↔ p.filter ≠ none := by
  cases h : p.filter <;> simp [isDegenerate, h]

end Plan

/-! ## Statements with a filter -/

namespace Sql.Statement

/-- That a statement keeps the rows that another one keeps and the filter of a plan hits. -/
def FilteredBy (s s' : Statement) (source : Source) (p : Plan) : Prop :=
  ∃ f clause hits, p.filter = some f ∧ f.expr source clause = .ok hits ∧ s'.conjuncts = s.conjuncts ++ [hits]

variable {s s' : Statement} {source : Source} {p : Plan}

theorem exists_search_iff (s : Statement) :
    (∃ s', s.search source p = .ok s') ↔ p.filter = none ∨ p.ranking = none ∨ p.ReadableFrom source := by
  cases hf : p.filter with
  | none => simp [search_of_filter_none s source hf]
  | some f =>
    cases hr : p.ranking with
    | none => simp [search_of_ranking_none s source hr]
    | some r =>
      have hread : p.ReadableFrom source ↔ (∃ score, r.expr source s.clauses = .ok score) ∧
          ∃ hits, f.expr source (s.clauses + 1) = .ok hits := by
        rw [Plan.readableFrom_iff hf hr, Filter.exists_expr_iff, Ranking.exists_expr_iff, and_comm]
      simp [search_eq_ok hf hr, hread]

theorem conjuncts_of_search (hf : p.filter = none ∨ p.ranking = none) (h : s.search source p = .ok s') :
    s'.conjuncts = s.conjuncts := by
  rcases hf with hf | hr
  · rw [search_of_filter_none s source hf] at h
    cases h
    rfl
  · rw [search_of_ranking_none s source hr] at h
    cases h
    rfl

theorem not_filteredBy_of_conjuncts (h : s'.conjuncts = s.conjuncts) : ¬ s.FilteredBy s' source p := by
  rintro ⟨f, clause, hits, -, -, hconjuncts⟩
  rw [h] at hconjuncts
  simp at hconjuncts

theorem filteredBy_of_search {f : Filter} {r : Ranking} (hf : p.filter = some f) (hr : p.ranking = some r)
    (h : s.search source p = .ok s') : s.FilteredBy s' source p := by
  obtain ⟨score, hits, -, hhits, rfl⟩ := (search_eq_ok hf hr).1 h
  exact ⟨f, _, hits, hf, hhits, rfl⟩

theorem filteredBy_iff_of_search (h : s.search source p = .ok s') :
    s.FilteredBy s' source p ↔ p.isDegenerate = false ∧ p.ranking ≠ none := by
  rw [Plan.isDegenerate_eq_false]
  cases hf : p.filter with
  | none => simp [not_filteredBy_of_conjuncts (conjuncts_of_search (.inl hf) h)]
  | some f =>
    cases hr : p.ranking with
    | none => simp [not_filteredBy_of_conjuncts (conjuncts_of_search (.inr hr) h)]
    | some r => simp [filteredBy_of_search hf hr h]

/-- A filter without a ranking is as good as none. -/
theorem search_without_filter (hr : p.ranking = none) (s : Statement) (source : Source) :
    s.search source p = s.search source { p with filter := none } := by
  rw [search_of_ranking_none s source hr, search_of_filter_none s source rfl]
  rfl

/-- **Which plans filter.**  A plan filters the statement that it is added to just when it has a filter and a ranking;
for compiled plans, just when it is not degenerate.  Otherwise all rows are kept, and a filter without a ranking is as
good as none. -/
theorem filteredBy_iff (s : Statement) (source : Source) (p : Plan) :
    ((∃ s', s.search source p = .ok s') ↔ p.filter = none ∨ p.ranking = none ∨ p.ReadableFrom source) ∧
    (∀ s', s.search source p = .ok s' →
      (s.FilteredBy s' source p ↔ p.isDegenerate = false ∧ p.ranking ≠ none) ∧
      (¬ s.FilteredBy s' source p → s'.conjuncts = s.conjuncts) ∧
      ∀ columns text defaults overrides, Plan.compile columns text defaults overrides = .ok p →
        (s.FilteredBy s' source p ↔ p.isDegenerate = false)) ∧
    (p.ranking = none → s.search source p = s.search source { p with filter := none }) := by
  refine ⟨exists_search_iff s, fun s' h => ?_, fun hr => search_without_filter hr s source⟩
  have hiff := filteredBy_iff_of_search h
  refine ⟨hiff, fun hnot => ?_, fun columns text defaults overrides hp => ?_⟩
  · refine conjuncts_of_search ?_ h
    rw [hiff, Plan.isDegenerate_eq_false] at hnot
    by_cases hf : p.filter = none
    · exact .inl hf
    · exact .inr (of_not_not fun hr => hnot ⟨hf, hr⟩)
  · have hboth := Plan.ranking_eq_none_iff hp
    rw [hiff, Plan.isDegenerate_eq_false, ne_eq, ne_eq, hboth, and_self]

/-- A word filters the rows of a table. -/
theorem filteredBy_iff_word :
    let source : Source := .table (.ofNames "people" ["name"])
    ∃ p s', Plan.compile [.text "name"] (some "cat") .default .nothing = .ok p ∧
      (ofSource source).search source p = .ok s' ∧ (ofSource source).FilteredBy s' source p := by
  intro source
  let p : Plan := .withTerms .default "search_by_name" ⟨[⟨"name", none⟩], "simple"⟩ ⟨[⟨"cat", true⟩], .and, "simple"⟩
  have hp : Plan.compile [.text "name"] (some "cat") .default .nothing = .ok p := by cbv
  have hdocument : Document.ReadableFrom ⟨[⟨"name", none⟩], "simple"⟩ source := ⟨by decide, by decide⟩
  have hread : p.ReadableFrom source := (Plan.readableFrom_iff rfl rfl).2 ⟨hdocument, hdocument⟩
  obtain ⟨hexists, hsearch, -⟩ := filteredBy_iff (ofSource source) source p
  obtain ⟨s', hs'⟩ := hexists.2 (.inr (.inr hread))
  obtain ⟨-, -, hcompiled⟩ := hsearch s' hs'
  exact ⟨p, s', hp, hs', (hcompiled _ _ _ _ hp).2 rfl⟩

/-- A filter without a ranking leaves the rows of a table unfiltered. -/
theorem not_filteredBy_without_ranking :
    ¬ ∀ (s s' : Statement) (source : Source) (p : Plan), p.ReadableFrom source → s.search source p = .ok s' →
      (s.FilteredBy s' source p ↔ p.isDegenerate = false) := by
  intro h
  let source : Source := .table (.ofNames "people" ["id", "name"])
  let document : Document := ⟨[⟨"name", none⟩], "simple"⟩
  let p : Plan := { scopeName := "s", filter := some ⟨document, ⟨[⟨"cat", false⟩], .and, "simple"⟩⟩ }
  have hread : p.ReadableFrom source := by
    constructor
    · rintro f ⟨⟩
      exact ⟨by decide, by decide⟩
    · rintro r ⟨⟩
  have hfiltered := (h (ofSource source) _ source p hread (search_of_ranking_none _ _ rfl)).2 rfl
  exact not_filteredBy_of_conjuncts rfl hfiltered

end Sql.Statement

end FullText
