import FullText.Proofs.Plan.Rejection
import FullText.Proofs.Sql.DocumentText

/-!
# What searches add to a statement

Searches that are added to a statement one after the other leave what it had in place.

* `Addition`, `Search.Adds` — what one search adds: to what is shown, to what is kept, to the order.
* `Sql.Statement.ExtendedBy` — that a statement is another one with additions behind each of its lists.
* `Sql.Statement.exists_search` — one search extends a statement by what it adds.
* `Sql.Statement.searchAll_appends` — so do any number of them, and the names of the columns shown have nothing to do
  with the texts.
-/

namespace FullText

open Text Sql

/-! ## Searches and their additions -/

/-- A search as it is asked for. -/
structure Search where
  columns : List Value
  text : Option String
  defaults : Options
  overrides : Overrides

/-- What is put behind the lists of a statement. -/
structure Addition where
  outputs : List Output := []
  conjuncts : List Expr := []
  sortKeys : List SortKey := []

namespace Search

def plan (q : Search) : Except Error Plan := Plan.compile q.columns q.text q.defaults q.overrides

def CompilesTo (q : Search) (p : Plan) : Prop := q.plan = .ok p

def options (q : Search) : Except Error Options := q.defaults.resolve q.overrides

def withText (q : Search) (text : Option String) : Search := { q with text }

/-- The column that shows an expression as the score of a plan, if the options want it shown. -/
def shown (o : Options) (p : Plan) (e : Expr) : List Output :=
  if o.selectRank then [{ expr := e, label := p.rankLabel }] else []

/-- That an addition is what a search adds to a statement over a source. -/
inductive Adds (source : Source) (q : Search) : Addition → Prop where
  /-- Without terms: a zero, if the score is wanted. -/
  | blank {o : Options} {p : Plan} (ho : q.options = .ok o) (hp : q.plan = .ok p) (h : ¬ HasTerms q.text) :
      Adds source q { outputs := shown o p .zero }
  /-- With terms: the match of the filter's query with its document, the order by the rank of the ranking's query in its
  document, and that very rank, if it is wanted. -/
  | terms {o : Options} {p : Plan} {f : Filter} {r : Ranking} {found scored score : Expr} {clause : Nat}
      (ho : q.options = .ok o) (hp : q.plan = .ok p) (h : HasTerms q.text)
      (hf : p.filter = some f) (hr : p.ranking = some r)
      (hscored : scored.IsVectorOf source r.document.columns) (hfound : found.IsVectorOf source f.document.columns)
      (hscoredExpr : r.document.expr source clause = .ok scored)
      (hfoundExpr : f.document.expr source (clause + 1) = .ok found)
      (hscore : score = .rank r.function scored
        (.query (.configuration (.ofText clause .queryLanguage r.query.language))
          (.ofText clause .queryText r.query.text))
        (.bound (.of clause .normalization (.int r.normalization)))) :
      Adds source q {
        outputs := shown o p score
        conjuncts := [.hits found
          (.query (.configuration (.ofText (clause + 1) .queryLanguage f.query.language))
            (.ofText (clause + 1) .queryText f.query.text))]
        sortKeys := [{ expr := score, descending := true }] }

end Search

/-- The name of a column of the result. -/
def Sql.Output.name? (o : Output) : Option String := o.label.or o.expr.columnName?

/-! ## Extended statements -/

namespace Sql.Statement

/-- That a statement is another one with additions behind what it shows, keeps and orders by. -/
structure ExtendedBy (s s' : Statement) (additions : List Addition) : Prop where
  outputs : s'.outputs = s.outputs ++ additions.flatMap Addition.outputs
  conjuncts : s'.conjuncts = s.conjuncts ++ additions.flatMap Addition.conjuncts
  sortKeys : s'.sortKeys = s.sortKeys ++ additions.flatMap Addition.sortKeys
  limit : s'.limit = s.limit
  sources : s.sources <+: s'.sources

variable {s s' s'' : Statement} {source : Source}

theorem ExtendedBy.nil (s : Statement) : s.ExtendedBy s [] := by
  constructor <;> simp

theorem ExtendedBy.trans {a b : List Addition} (h : s.ExtendedBy s' a) (h' : s'.ExtendedBy s'' b) :
    s.ExtendedBy s'' (a ++ b) where
  outputs := by rw [h'.outputs, h.outputs, List.append_assoc, List.flatMap_append]
  conjuncts := by rw [h'.conjuncts, h.conjuncts, List.append_assoc, List.flatMap_append]
  sortKeys := by rw [h'.sortKeys, h.sortKeys, List.append_assoc, List.flatMap_append]
  limit := h'.limit.trans h.limit
  sources := h.sources.trans h'.sources

theorem sources_reading (s : Statement) (source : Source) : s.sources <+: (s.reading source).sources := by
  unfold reading
  split
  · exact List.prefix_rfl
  · exact List.prefix_append _ _

theorem limit_reading (s : Statement) (source : Source) : (s.reading source).limit = s.limit := by
  unfold reading
  split <;> rfl

end Sql.Statement

/-! ## One search -/

namespace Plan

/-- A label is never empty. -/
theorem shownLabel?_of_rankLabel (o : Options) (name : String) {p : Plan}
    (h : p.rankLabel = if o.selectRank then some (rankLabelOf name) else none) :
    p.shownLabel? = p.rankLabel := by
  have hne : rankLabelOf name ≠ "" := by simp [rankLabelOf]
  rw [shownLabel?, h]
  split
  · simp [hne]
  · rfl

theorem zeroOutputs_withoutTerms (o : Options) (name : String) :
    Statement.zeroOutputs (withoutTerms o name) = Search.shown o (withoutTerms o name) .zero := by
  unfold Statement.zeroOutputs
  rw [shownLabel?_of_rankLabel o name rfl]
  cases h : o.selectRank <;> simp [withoutTerms, Search.shown, h]

theorem rankOutputs_withTerms (o : Options) (name : String) (d : Document) (q : Query) (score : Expr) :
    Statement.rankOutputs (withTerms o name d q) score = Search.shown o (withTerms o name d q) score := by
  rw [Statement.rankOutputs_eq, shownLabel?_of_rankLabel o name rfl]
  cases h : o.selectRank <;> simp [withTerms, Search.shown, h]

end Plan

namespace Sql.Statement

variable {source : Source} {q : Search} {p : Plan}

theorem exists_search (hp : q.plan = .ok p) (hsource : p.OfferedBy source) (s : Statement) :
    ∃ s' a, s.search source p = .ok s' ∧ q.Adds source a ∧ s.ExtendedBy s' [a] := by
  obtain ⟨-, o, ho, hplan⟩ := Plan.compile_eq_ok.1 hp
  by_cases h : HasTerms q.text
  · obtain ⟨name, cs, -, -, hcs, rfl⟩ := (Plan.ofOptions_of_hasTerms h).1 hplan
    obtain ⟨scored, hscoredExpr, hscored⟩ :=
      Document.exists_isVectorOf (Plan.rankDocument_columns_ne_nil hcs) hsource.rank s.clauses
    obtain ⟨found, hfoundExpr, hfound⟩ := Document.exists_isVectorOf hcs (hsource.filter _ rfl) (s.clauses + 1)
    refine ⟨_, _, (search_eq_ok rfl rfl).2 ⟨_, _, bind_eq_ok.2 ⟨scored, hscoredExpr, rfl⟩,
      bind_eq_ok.2 ⟨found, hfoundExpr, rfl⟩, rfl⟩, .terms ho hp h rfl rfl hscored hfound hscoredExpr hfoundExpr rfl, ?_⟩
    constructor
    · simp [Plan.rankOutputs_withTerms, Query.expr]
    · simp [Query.expr]
    · simp [rankKeys, Plan.withTerms, Query.expr]
    · exact s.limit_reading source
    · exact s.sources_reading source
  · obtain ⟨name, -, rfl⟩ := (Plan.ofOptions_of_not_hasTerms h).1 hplan
    refine ⟨_, _, search_of_filter_none s source rfl, .blank ho hp h, ?_⟩
    constructor <;> simp [Plan.zeroOutputs_withoutTerms]

theorem exists_searchAll {searches : List Search} {plans : List Plan}
    (hplans : List.Forall₂ Search.CompilesTo searches plans) (hsource : ∀ p ∈ plans, p.OfferedBy source)
    (s : Statement) :
    ∃ s' additions, s.searchAll source plans = .ok s' ∧ List.Forall₂ (Search.Adds source) searches additions ∧
      s.ExtendedBy s' additions := by
  -- along the searches, for every statement: the next one starts from what the first has made
  induction hplans generalizing s with
  | nil => exact ⟨s, [], rfl, .nil, .nil s⟩
  | cons hp _ ih =>
    rw [List.forall_mem_cons] at hsource
    obtain ⟨s₁, a, hs₁, ha, hext⟩ := exists_search hp hsource.1 s
    obtain ⟨s', additions, hs', hadds, hext'⟩ := ih hsource.2 s₁
    exact ⟨s', a :: additions, bind_eq_ok.2 ⟨s₁, hs₁, hs'⟩, .cons ha hadds, hext.trans hext'⟩

end Sql.Statement

/-! ## Names -/

namespace Search

/-- The names of the columns that a search adds, which its text has no part in. -/
def shownNames (q : Search) : List (Option String) :=
  match q.options with
  | .ok o => if o.selectRank then [(o.nameFor q.columns).toOption.map rankLabelOf] else []
  | .error _ => []

theorem shownNames_withText (q : Search) (text : Option String) : (q.withText text).shownNames = q.shownNames := rfl

theorem rankLabel_of_plan {q : Search} {o : Options} {p : Plan} (ho : q.options = .ok o) (hp : q.plan = .ok p) :
    ∃ name, o.nameFor q.columns = .ok name ∧ p.rankLabel = if o.selectRank then some (rankLabelOf name) else none := by
  have hplan := Plan.ofOptions_of_compile ho hp
  by_cases h : HasTerms q.text
  · obtain ⟨name, cs, hname, -, -, rfl⟩ := (Plan.ofOptions_of_hasTerms h).1 hplan
    exact ⟨name, hname, rfl⟩
  · obtain ⟨name, hname, rfl⟩ := (Plan.ofOptions_of_not_hasTerms h).1 hplan
    exact ⟨name, hname, rfl⟩

theorem names_shown {q : Search} {o : Options} {p : Plan} (ho : q.options = .ok o) (hp : q.plan = .ok p) (e : Expr) :
    (shown o p e).map Output.name? = q.shownNames := by
  obtain ⟨name, hname, hlabel⟩ := rankLabel_of_plan ho hp
  unfold shown shownNames
  rw [ho]
  cases hrank : o.selectRank with
  | false => simp [hrank]
  | true => simp [hrank, hname, hlabel, Output.name?, Except.toOption]

theorem Adds.names {source : Source} {q : Search} {a : Addition} (h : q.Adds source a) :
    a.outputs.map Output.name? = q.shownNames := by
  cases h with
  | blank ho hp => exact names_shown ho hp .zero
  | terms ho hp => exact names_shown ho hp _

end Search

namespace Sql.Statement

variable {source : Source} {s s' : Statement} {searches searches' : List Search} {plans : List Plan}

theorem names_of_extendedBy {additions : List Addition}
    (hadds : List.Forall₂ (Search.Adds source) searches additions) (h : s.ExtendedBy s' additions) :
    s'.outputs.map Output.name? = s.outputs.map Output.name? ++ searches.flatMap Search.shownNames := by
  rw [h.outputs, List.map_append, List.map_flatMap]
  congr 1
  clear h
  induction hadds with
  | nil => rfl
  | cons ha _ ih => rw [List.flatMap_cons, List.flatMap_cons, ih, ha.names]

theorem shownNames_congr (h : searches'.map (Search.withText · none) = searches.map (Search.withText · none)) :
    searches'.flatMap Search.shownNames = searches.flatMap Search.shownNames := by
  have hnull (qs : List Search) :
      qs.flatMap Search.shownNames = (qs.map (Search.withText · none)).flatMap Search.shownNames := by
    simp only [List.flatMap_map, Search.shownNames_withText]
  rw [hnull searches', h, ← hnull searches]

theorem search_of_nothing {q : Search} {o : Options} {p : Plan} (ho : q.options = .ok o) (hp : q.plan = .ok p)
    (hterms : ¬ HasTerms q.text) (hrank : o.selectRank = false) (s : Statement) : s.search source p = .ok s := by
  obtain ⟨name, -, rfl⟩ := (Plan.ofOptions_of_not_hasTerms hterms).1 (Plan.ofOptions_of_compile ho hp)
  rw [search_of_filter_none s source rfl, Plan.zeroOutputs_withoutTerms]
  simp [Search.shown, hrank]

/-- **Searches only append.**  Searches in turn succeed over a source that offers their columns, and put behind what a
statement had what each of them adds.  The names of the columns shown are the same for all texts, and a search without
terms and without a score to show leaves every statement as it is. -/
theorem searchAll_appends (s : Statement) (hplans : List.Forall₂ Search.CompilesTo searches plans)
    (hsource : ∀ p ∈ plans, p.OfferedBy source) :
    ∃ s' additions, s.searchAll source plans = .ok s' ∧ List.Forall₂ (Search.Adds source) searches additions ∧
      s.ExtendedBy s' additions ∧
      s'.outputs.map Output.name? = s.outputs.map Output.name? ++ searches.flatMap Search.shownNames ∧
      -- the same searches for other texts
      (∀ (searches' : List Search) plans',
        searches'.map (Search.withText · none) = searches.map (Search.withText · none) →
        List.Forall₂ Search.CompilesTo searches' plans' → (∀ p ∈ plans', p.OfferedBy source) →
        ∃ s'', s.searchAll source plans' = .ok s'' ∧ s''.outputs.map Output.name? = s'.outputs.map Output.name?) ∧
      ∀ (q : Search) o p, q.options = .ok o → q.plan = .ok p → ¬ HasTerms q.text → o.selectRank = false →
        ∀ t : Statement, t.search source p = .ok t := by
  obtain ⟨s', additions, hs', hadds, hext⟩ := exists_searchAll hplans hsource s
  have hnames := names_of_extendedBy hadds hext
  refine ⟨s', additions, hs', hadds, hext, hnames, ?_, fun q o p => search_of_nothing⟩
  intro searches' plans' htexts hplans' hsource'
  obtain ⟨s'', additions', hs'', hadds', hext'⟩ := exists_searchAll hplans' hsource' s
  exact ⟨s'', hs'', by rw [names_of_extendedBy hadds' hext', hnames, shownNames_congr htexts]⟩

/-- A word and no text, both with a score to show, behind a limit. -/
theorem searchAll_appends_word_and_blank :
    let source : Source := .table (.ofNames "articles" ["title", "body"])
    let searches : List Search := [
      ⟨[.text "body"], some "cat", .default, .entries [("as", .text "by_body"), ("select_rank", .bool true)]⟩,
      ⟨[.text "title"], none, .default, .entries [("select_rank", .bool true)]⟩]
    let vector := "to_tsvector(CAST('simple' AS REGCONFIG), coalesce(articles.body, ''))"
    let query := "to_tsquery(CAST('simple' AS REGCONFIG), '''cat'':*')"
    let score := "ts_rank(" ++ vector ++ ", " ++ query ++ ", 0)"
    ∃ plans, List.Forall₂ Search.CompilesTo searches plans ∧ (∀ p ∈ plans, p.OfferedBy source) ∧
      ∃ s' additions, ((ofSource source).limited 5).searchAll source plans = .ok s' ∧
        List.Forall₂ (Search.Adds source) searches additions ∧ ((ofSource source).limited 5).ExtendedBy s' additions ∧
        s'.outputs.map Output.name? =
          [some "title", some "body", some "by_body_rank", some "search_by_title_rank"] ∧
        inlined s'.fragments =
          "SELECT articles.title, articles.body, " ++ score ++ " AS by_body_rank, 0 AS search_by_title_rank \nFROM " ++
            "articles \nWHERE " ++ vector ++ " @@ " ++ query ++ " ORDER BY " ++ score ++ " DESC \n LIMIT 5" := by
  intro source searches vector query score
  let word : Plan := .withTerms { scopeName := some "by_body", selectRank := true } "by_body"
    ⟨[⟨"body", none⟩], "simple"⟩ ⟨[⟨"cat", true⟩], .and, "simple"⟩
  let blank : Plan := .withoutTerms { selectRank := true } "search_by_title"
  have hplans : List.Forall₂ Search.CompilesTo searches [word, blank] := by
    refine .cons ?_ (.cons ?_ .nil)
    · show Plan.compile _ _ _ _ = _
      cbv
    · show Plan.compile _ _ _ _ = _
      cbv
  have hoffered : ∀ p ∈ [word, blank], p.OfferedBy source := by
    rw [List.forall_mem_cons, List.forall_mem_singleton]
    refine ⟨⟨fun f hf => ?_, by decide⟩, ⟨fun f hf => ?_, by decide⟩⟩
    · cases hf
      decide
    · cases hf
  obtain ⟨s', additions, hs', hadds, hext, hnames, -⟩ :=
    searchAll_appends ((ofSource source).limited 5) hplans hoffered
  have hcolumns : ((ofSource source).limited 5).outputs.map Output.name? = [some "title", some "body"] := by decide
  have hlabels : searches.flatMap Search.shownNames = [some "by_body_rank", some "search_by_title_rank"] := by decide
  refine ⟨_, hplans, hoffered, s', additions, hs', hadds, hext, by rw [hnames, hcolumns, hlabels]; rfl, ?_⟩
  cases hs'
  decide +kernel

end Sql.Statement

end FullText
