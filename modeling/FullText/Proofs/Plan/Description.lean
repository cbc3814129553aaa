import FullText.Proofs.Column.WrittenForm
import FullText.Proofs.Plan.Rejection

/-!
# Descriptions of plans

The description of a plan shows its terms with their marks, its columns as they are written, one language in the place
of three and no query for the score.  For compiled plans nothing is lost by that.

* `Term.ofDisplay` — a term without a colon is read back from what is shown of it, as a column is (`Column.ReadsBack`)
  unless its written form is that of another.
* `Plan.Describable` — that what a description leaves out is shown by it elsewhere; `Plan.describable_of_compile` says
  that compiled plans are so.
* `Plan.eq_of_describe` — such plans are told apart by their descriptions; `Plan.describe_eq_iff` for compiled plans.
-/

namespace FullText

open Text

/-! ## What is shown of terms and columns -/

/-- The term that a text shows: the colon of its mark is the only one. -/
def Term.ofDisplay (s : String) : Term where
  text := String.ofList (s.toList.takeWhile (· ≠ ':'))
  marked := s.toList.contains ':'

theorem Term.ofDisplay_display {t : Term} (h : ':' ∉ t.text.toList) : ofDisplay t.display = t := by
  have hpos : ∀ c ∈ t.text.toList, decide (c ≠ ':') = true := by
    intro c hc
    rw [decide_eq_true_iff]
    rintro rfl
    exact h hc
  have htext : t.display.toList.takeWhile (· ≠ ':') = t.text.toList := by
    rw [display, String.toList_append, List.takeWhile_append_of_pos hpos]
    cases hm : t.marked <;> simp [suffix, hm]
  have hmark : t.display.toList.contains ':' = t.marked := by
    rw [display, String.toList_append]
    cases hm : t.marked <;> simp [suffix, hm, h]
  rw [ofDisplay, htext, hmark, String.ofList_toList]

/-- What can be read back, item by item, is told apart by how it is shown. -/
theorem eq_of_map_shown {α : Type} {shown : α → String} {read : String → α} {xs ys : List α}
    (hx : ∀ x ∈ xs, read (shown x) = x) (hy : ∀ y ∈ ys, read (shown y) = y)
    (h : xs.map (fun x => Json.text (shown x)) = ys.map fun y => Json.text (shown y)) : xs = ys := by
  have hread (zs : List α) (hz : ∀ z ∈ zs, read (shown z) = z) : (zs.map shown).map read = zs := by
    rw [List.map_map]
    exact (List.map_congr_left hz).trans (List.map_id zs)
  have hshown : xs.map shown = ys.map shown := by
    have hinj : Function.Injective Json.text := fun _ _ ht => Json.text.inj ht
    refine List.map_injective_iff.2 hinj ?_
    rw [List.map_map, List.map_map]
    exact h
  rw [← hread xs hx, hshown, hread ys hy]

namespace Plan

variable {p q : Plan}

/-! ## What a description leaves out -/

/-- That all columns of a plan are read back from their written form. -/
structure ColumnsReadBack (p : Plan) : Prop where
  filter : ∀ f, p.filter = some f → ∀ c ∈ f.document.columns, c.ReadsBack
  ranking : ∀ r, p.ranking = some r → ∀ c ∈ r.document.columns, c.ReadsBack

/-- That what the description of a plan leaves out is shown elsewhere in it. -/
structure Describable (p : Plan) : Prop where
  /-- The document has the language of the query, and the signs of a mark are in no term. -/
  filter : ∀ f, p.filter = some f →
    f.document.language = f.query.language ∧ ∀ t ∈ f.query.terms, ':' ∉ t.text.toList
  /-- The score is for the query of the filter, in its language. -/
  ranking : ∀ r, p.ranking = some r →
    ∃ f, p.filter = some f ∧ r.query = f.query ∧ r.document.language = f.query.language

theorem language_rankDocument (o : Options) {d : Document} (h : d.language = o.language) :
    (o.rankDocument d).language = o.language := by
  unfold Options.rankDocument
  split
  · rfl
  · exact h

theorem colon_not_mem_termsOf (o : Options) (s : String) : ∀ t ∈ o.termsOf s, ':' ∉ t.text.toList := by
  intro t ht hc
  have hcolon : isTermChar ':' = true := Options.isTermChar_of_mem_termsOf ht hc
  exact absurd hcolon (by decide)

theorem describable_of_compile {columns : List Value} {text : Option String} {defaults : Options}
    {overrides : Overrides} (hp : compile columns text defaults overrides = .ok p) : p.Describable := by
  obtain ⟨-, o, -, hplan⟩ := compile_eq_ok.1 hp
  by_cases h : HasTerms text
  · obtain ⟨name, cs, -, -, -, rfl⟩ := (ofOptions_of_hasTerms h).1 hplan
    constructor
    · rintro f ⟨⟩
      exact ⟨rfl, colon_not_mem_termsOf o _⟩
    · rintro r ⟨⟩
      exact ⟨_, rfl, rfl, language_rankDocument o rfl⟩
  · obtain ⟨name, -, rfl⟩ := (ofOptions_of_not_hasTerms h).1 hplan
    exact ⟨nofun, nofun⟩

/-! ## Telling plans by their descriptions -/

theorem eq_of_describeFilter (hp : p.Describable) (hq : q.Describable) (hpc : p.ColumnsReadBack)
    (hqc : q.ColumnsReadBack) {f g : Filter} (hf : p.filter = some f) (hg : q.filter = some g)
    (h : describeFilter f = describeFilter g) : f = g := by
  obtain ⟨hflanguage, hfterms⟩ := hp.filter f hf
  obtain ⟨hglanguage, hgterms⟩ := hq.filter g hg
  simp only [describeFilter, Json.object.injEq, List.cons.injEq, Prod.mk.injEq, true_and, Json.array.injEq,
    Json.text.injEq] at h
  obtain ⟨hcolumns, hlanguage, hoperator, hterms, -⟩ := h
  have hcs : f.document.columns = g.document.columns :=
    eq_of_map_shown (hpc.filter f hf) (hqc.filter g hg) hcolumns
  have hts : f.query.terms = g.query.terms :=
    eq_of_map_shown (fun t ht => Term.ofDisplay_display (hfterms t ht))
      (fun t ht => Term.ofDisplay_display (hgterms t ht)) hterms
  have hop : f.query.operator = g.query.operator := by
    have hword := congrArg Operator.ofWord? hoperator
    simpa using hword
  obtain ⟨⟨cs, l⟩, ⟨ts, op, ql⟩⟩ := f
  obtain ⟨⟨cs', l'⟩, ⟨ts', op', ql'⟩⟩ := g
  simp only at hflanguage hglanguage hlanguage hcs hts hop
  rw [hflanguage, hglanguage, hlanguage, hcs, hts, hop]

theorem eq_of_describeRanking (hp : p.Describable) (hq : q.Describable) (hpc : p.ColumnsReadBack)
    (hqc : q.ColumnsReadBack) (hfilter : p.filter = q.filter) {r s : Ranking} (hr : p.ranking = some r)
    (hs : q.ranking = some s) (h : describeRanking r = describeRanking s) : r = s := by
  obtain ⟨f, hf, hrquery, hrlanguage⟩ := hp.ranking r hr
  obtain ⟨g, hg, hsquery, hslanguage⟩ := hq.ranking s hs
  obtain rfl : f = g := Option.some.inj ((hf.symm.trans hfilter).trans hg)
  simp only [describeRanking, Json.object.injEq, List.cons.injEq, Prod.mk.injEq, true_and, Json.array.injEq,
    Json.text.injEq, Json.int.injEq] at h
  obtain ⟨hfunction, hcolumns, hnormalization, -⟩ := h
  have hcs : r.document.columns = s.document.columns :=
    eq_of_map_shown (hpc.ranking r hr) (hqc.ranking s hs) hcolumns
  have hfn : r.function = s.function := by
    have hword := congrArg RankFunction.ofWord? hfunction
    simpa using hword
  obtain ⟨fn, ⟨cs, l⟩, query, n⟩ := r
  obtain ⟨fn', ⟨cs', l'⟩, query', n'⟩ := s
  simp only at hrquery hsquery hrlanguage hslanguage hcs hfn hnormalization
  rw [hrquery, hsquery, hrlanguage, hslanguage, hcs, hfn, hnormalization]

/-- A part that may be missing is shown as null just when it is. -/
theorem eq_of_described {α : Type} {shown : α → Json} (hnull : ∀ a, shown a ≠ .null) {x y : Option α}
    (h : (x.map shown).getD .null = (y.map shown).getD .null)
    (hinj : ∀ a b, x = some a → y = some b → shown a = shown b → a = b) : x = y := by
  cases x with
  | none =>
    cases y with
    | none => rfl
    | some b => exact absurd h.symm (hnull b)
  | some a =>
    cases y with
    | none => exact absurd h (hnull a)
    | some b => rw [hinj a b rfl rfl h]

theorem ofText?_injective {x y : Option String} (h : Json.ofText? x = Json.ofText? y) : x = y := by
  cases x <;> cases y <;> simp_all [Json.ofText?]

theorem eq_of_describe (hp : p.Describable) (hq : q.Describable) (hpc : p.ColumnsReadBack) (hqc : q.ColumnsReadBack)
    (h : p.describe = q.describe) : p = q := by
  simp only [describe, Json.object.injEq, List.cons.injEq, Prod.mk.injEq, true_and, Json.text.injEq,
    Json.bool.injEq] at h
  obtain ⟨hname, hfilter, hranking, hlabel, horders, hzero, -⟩ := h
  have hf : p.filter = q.filter :=
    eq_of_described nofun hfilter fun _ _ => eq_of_describeFilter hp hq hpc hqc
  have hr : p.ranking = q.ranking :=
    eq_of_described nofun hranking fun _ _ => eq_of_describeRanking hp hq hpc hqc hf
  have hl : p.rankLabel = q.rankLabel := ofText?_injective hlabel
  obtain ⟨name, f, r, l, orders, zero⟩ := p
  obtain ⟨name', f', r', l', orders', zero'⟩ := q
  simp only at hname hf hr hl horders hzero
  rw [hname, hf, hr, hl, horders, hzero]

/-- **Compiled plans are told apart by their descriptions**, as far as their columns are by their written forms. -/
theorem describe_eq_iff {columns columns' : List Value} {text text' : Option String} {defaults defaults' : Options}
    {overrides overrides' : Overrides} (hp : compile columns text defaults overrides = .ok p)
    (hq : compile columns' text' defaults' overrides' = .ok q) (hpc : p.ColumnsReadBack) (hqc : q.ColumnsReadBack) :
    p.describe = q.describe ↔ p = q := by
  constructor
  · exact eq_of_describe (describable_of_compile hp) (describable_of_compile hq) hpc hqc
  · rintro rfl
    rfl

set_option maxRecDepth 1024 in
/-- One term joined by "and" or by "or" gives the same query text, and yet two descriptions. -/
theorem describe_eq_iff_one_term :
    let title : Column := ⟨"title", some "a.b"⟩
    let ranked : Overrides := .layer { operator := some (some .or), rankColumns := some (some [⟨"title", none⟩]) }
    ∃ p q, compile [.column title] (some "cat.") .default .nothing = .ok p ∧
      compile [.column title] (some "(cat)") .default ranked = .ok q ∧ (p.ColumnsReadBack ∧ q.ColumnsReadBack) ∧
      p.filter.map (·.query.text) = q.filter.map (·.query.text) ∧ p.describe ≠ q.describe := by
  intro title ranked
  let p : Plan := .withTerms .default "search_by_title" ⟨[title], "simple"⟩ ⟨[⟨"cat", true⟩], .and, "simple"⟩
  let q : Plan := .withTerms { operator := .or, rankColumns := some [⟨"title", none⟩] } "search_by_title"
    ⟨[title], "simple"⟩ ⟨[⟨"cat", true⟩], .or, "simple"⟩
  have hp : compile [.column title] (some "cat.") .default .nothing = .ok p := by cbv
  have hq : compile [.column title] (some "(cat)") .default ranked = .ok q := by cbv
  have htitle : ∀ c ∈ [title], c.ReadsBack := by decide +kernel
  have hplain : ∀ c ∈ [(⟨"title", none⟩ : Column)], c.ReadsBack := by decide +kernel
  have hpc : p.ColumnsReadBack := by
    constructor <;> rintro _ ⟨⟩ <;> exact htitle
  have hqc : q.ColumnsReadBack := by
    constructor <;> rintro _ ⟨⟩
    · exact htitle
    · exact hplain
  refine ⟨p, q, hp, hq, ⟨hpc, hqc⟩, by decide, fun h => ?_⟩
  have hsame : p = q := (describe_eq_iff hp hq hpc hqc).1 h
  exact absurd hsame (by decide)

end Plan

end FullText
