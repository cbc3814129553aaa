import FullText.Proofs.Options.Reachable
import FullText.Proofs.Plan.Rejection
import FullText.Proofs.Wildcard.Chain

/-!
# Coherent plans

The parts of a compiled plan go together, whichever of the two ways it was made.

* `Options.termsOf_eq_mapIdx` — the terms of a search are those of its text, marked at the places of the policy.
* `Plan.Coherent` — what the parts of a plan have to do with the columns, the text and the options of its search.
* `Plan.coherent_of_compile` — every plan compiled under options that can come about is coherent, and what is never
  meant to happen does not: a query of no terms, a document of no columns.
-/

namespace FullText

open Text

/-! ## The terms of a search -/

theorem Options.termsOf_eq_mapIdx (o : Options) (s : String) :
    o.termsOf s =
      (Term.scan s).mapIdx fun i t => { text := t.text, marked := o.wildcard.marksAt (Term.scan s).length i } := by
  rw [termsOf, Wildcard.apply_eq_mapIdx, List.mapIdx_eq_mapIdx_iff]
  -- a term fresh from the text has no mark of its own
  intro i hi
  rw [Term.marked_of_mem_scan (List.getElem_mem hi), Bool.false_or]

/-! ## Coherence -/

namespace Plan

/-- That a plan goes together with the columns, the text and the options of its search. -/
structure Coherent (p : Plan) (columns : List Value) (text : Option String) (o : Options) : Prop where
  filter_eq_none : p.filter = none ↔ ¬ HasTerms text
  ranking_eq_none : p.ranking = none ↔ ¬ HasTerms text
  ordersByRank_eq_false : p.ordersByRank = false ↔ ¬ HasTerms text
  /-- The name, and with it the label, has nothing to do with the text. -/
  nameFor_eq : o.nameFor columns = .ok p.scopeName
  rankLabel_eq : p.rankLabel = if o.selectRank then some (p.scopeName ++ "_rank") else none
  projectsZero_iff : p.projectsZero = true ↔ p.filter = none ∧ o.selectRank = true
  /-- All columns are searched, in order, for all terms of the text. -/
  filter : ∀ f, p.filter = some f →
    columnsOf columns = .ok f.document.columns ∧ f.document.language = o.language ∧
    f.query.terms = (Term.scan (text.getD "")).mapIdx (fun i t =>
      { text := t.text, marked := o.wildcard.marksAt (Term.scan (text.getD "")).length i }) ∧
    f.query.operator = o.operator ∧ f.query.language = o.language
  /-- The score is for the same query, over the columns to rank by if there are any. -/
  ranking : ∀ r, p.ranking = some r →
    ∃ f, p.filter = some f ∧ r.query = f.query ∧
      r.document = (match o.rankColumns with | some cs => ⟨cs, o.language⟩ | none => f.document) ∧
      r.function = o.rankFunction ∧ r.normalization = o.normalization

variable {columns : List Value} {text : Option String} {o : Options} {name : String}

theorem coherent_withoutTerms (h : ¬ HasTerms text) (hname : o.nameFor columns = .ok name) :
    (withoutTerms o name).Coherent columns text o where
  filter_eq_none := ⟨fun _ => h, fun _ => rfl⟩
  ranking_eq_none := ⟨fun _ => h, fun _ => rfl⟩
  ordersByRank_eq_false := ⟨fun _ => h, fun _ => rfl⟩
  nameFor_eq := hname
  rankLabel_eq := rfl
  projectsZero_iff := ⟨fun hzero => ⟨rfl, hzero⟩, fun hboth => hboth.2⟩
  filter := nofun
  ranking := nofun

theorem rankDocument_of_reachable (ho : o.Reachable) (d : Document) :
    o.rankDocument d = (match o.rankColumns with | some cs => ⟨cs, o.language⟩ | none => d) := by
  unfold Options.rankDocument
  rcases hcs : o.rankColumns with _ | _ | ⟨c, rest⟩
  · rfl
  · exact absurd hcs ho.rankColumns_ne_nil
  · rfl

theorem coherent_withTerms (ho : o.Reachable) (h : HasTerms text) (hname : o.nameFor columns = .ok name)
    {cs : List Column} (hcs : columnsOf columns = .ok cs) :
    (withTerms o name ⟨cs, o.language⟩ ⟨o.termsOf (text.getD ""), o.operator, o.language⟩).Coherent columns text o where
  filter_eq_none := ⟨nofun, fun hnone => absurd h hnone⟩
  ranking_eq_none := ⟨nofun, fun hnone => absurd h hnone⟩
  ordersByRank_eq_false := ⟨nofun, fun hnone => absurd h hnone⟩
  nameFor_eq := hname
  rankLabel_eq := rfl
  projectsZero_iff := ⟨nofun, nofun⟩
  filter := by
    rintro f ⟨⟩
    exact ⟨hcs, rfl, o.termsOf_eq_mapIdx _, rfl, rfl⟩
  ranking := by
    rintro r ⟨⟩
    exact ⟨_, rfl, rfl, rankDocument_of_reachable ho _, rfl, rfl⟩

theorem coherent_ofOptions (ho : o.Reachable) {p : Plan} (hp : ofOptions columns text o = .ok p) :
    p.Coherent columns text o := by
  by_cases h : HasTerms text
  · obtain ⟨name, cs, hname, hcs, -, rfl⟩ := (ofOptions_of_hasTerms h).1 hp
    exact coherent_withTerms ho h hname hcs
  · obtain ⟨name, hname, rfl⟩ := (ofOptions_of_not_hasTerms h).1 hp
    exact coherent_withoutTerms h hname

/-- The filter hangs on the policy, the operator and the language alone. -/
theorem Coherent.filter_congr {p p' : Plan} {o' : Options} (h : p.Coherent columns text o)
    (h' : p'.Coherent columns text o') (hwildcard : o.wildcard = o'.wildcard) (hoperator : o.operator = o'.operator)
    (hlanguage : o.language = o'.language) : p.filter = p'.filter := by
  cases hf : p.filter with
  | none => rw [eq_comm, h'.filter_eq_none, ← h.filter_eq_none, hf]
  | some f =>
    cases hf' : p'.filter with
    | none =>
      rw [h'.filter_eq_none, ← h.filter_eq_none, hf] at hf'
      cases hf'
    | some f' =>
      obtain ⟨hcs, hdlanguage, hterms, hqoperator, hqlanguage⟩ := h.filter f hf
      obtain ⟨hcs', hdlanguage', hterms', hqoperator', hqlanguage'⟩ := h'.filter f' hf'
      obtain ⟨⟨cs, l⟩, ⟨ts, op, ql⟩⟩ := f
      obtain ⟨⟨cs', l'⟩, ⟨ts', op', ql'⟩⟩ := f'
      simp only [hcs, Except.ok.injEq] at hcs'
      simp only at hdlanguage hterms hqoperator hqlanguage hdlanguage' hterms' hqoperator' hqlanguage'
      rw [hcs', hdlanguage, hterms, hqoperator, hqlanguage, hdlanguage', hterms', hqoperator', hqlanguage', hwildcard,
        hoperator, hlanguage]

/-- **Every compiled plan is coherent**, its filter hangs on three options, and no search comes to a query of no terms
or a document of no columns. -/
theorem coherent_of_compile {defaults : Options} (hdefaults : defaults.Reachable) {overrides : Overrides}
    (hoverrides : overrides.Checked) (columns : List Value) (text : Option String) :
    (∀ p, compile columns text defaults overrides = .ok p →
      ∃ o, defaults.resolve overrides = .ok o ∧ p.Coherent columns text o ∧
        ∀ defaults' overrides' o' p', defaults'.Reachable → overrides'.Checked →
          defaults'.resolve overrides' = .ok o' → compile columns text defaults' overrides' = .ok p' →
          o.wildcard = o'.wildcard → o.operator = o'.operator → o.language = o'.language → p.filter = p'.filter) ∧
    compile columns text defaults overrides ≠ .error .noTerms ∧
    compile columns text defaults overrides ≠ .error (.noColumns .document) := by
  refine ⟨fun p hp => ?_, fun h => ?_, fun h => ?_⟩
  · obtain ⟨-, o, ho, hplan⟩ := compile_eq_ok.1 hp
    have hcoherent := coherent_ofOptions (hdefaults.resolve hoverrides ho) hplan
    refine ⟨o, ho, hcoherent, ?_⟩
    intro defaults' overrides' o' p' hdefaults' hoverrides' ho' hp' hwildcard hoperator hlanguage
    have hcoherent' := coherent_ofOptions (hdefaults'.resolve hoverrides' ho') (ofOptions_of_compile ho' hp')
    exact hcoherent.filter_congr hcoherent' hwildcard hoperator hlanguage
  · rcases error_of_compile h with h | ⟨_, _, _, h⟩ | ⟨_, -, h⟩ <;> cases h
  · rcases error_of_compile h with h | ⟨_, _, _, h⟩ | ⟨_, -, h⟩ <;> cases h

set_option maxRecDepth 1024 in
/-- The columns to rank by and the wish for a score come into the plan, but not into its filter. -/
theorem coherent_of_compile_rank_columns :
    let columns : List Value := [.text "title", .text "body"]
    let plain : Overrides := .entries [("wildcard", .text "last")]
    let ranked : Overrides := .entries [
      ("wildcard", .text "last"), ("select_rank", .bool true), ("rank_columns", .list [.text "title"])]
    ∃ p q o, compile columns (some "a st.") .default ranked = .ok p ∧ Options.default.resolve ranked = .ok o ∧
      compile columns (some "a st.") .default plain = .ok q ∧ p.Coherent columns (some "a st.") o ∧
      p.filter = q.filter := by
  intro columns plain ranked
  have hp : compile columns (some "a st.") .default ranked =
      .ok (.withTerms { wildcard := .last, selectRank := true, rankColumns := some [⟨"title", none⟩] }
        "search_by_title_and_body" ⟨[⟨"title", none⟩, ⟨"body", none⟩], "simple"⟩
        ⟨[⟨"a", false⟩, ⟨"st", true⟩], .and, "simple"⟩) := by cbv
  have hq : compile columns (some "a st.") .default plain =
      .ok (.withTerms { wildcard := .last } "search_by_title_and_body" ⟨[⟨"title", none⟩, ⟨"body", none⟩], "simple"⟩
        ⟨[⟨"a", false⟩, ⟨"st", true⟩], .and, "simple"⟩) := by cbv
  have hranked : Options.default.resolve ranked =
      .ok { wildcard := .last, selectRank := true, rankColumns := some [⟨"title", none⟩] } := by cbv
  have hplain : Options.default.resolve plain = .ok { wildcard := .last } := by cbv
  have hchecked : ranked.Checked ∧ plain.Checked := ⟨trivial, trivial⟩
  obtain ⟨o, ho, hcoherent, hfilter⟩ := (coherent_of_compile .default hchecked.1 _ _).1 _ hp
  obtain rfl := Except.ok.inj (hranked.symm.trans ho)
  exact ⟨_, _, _, hp, hranked, hq, hcoherent, hfilter _ _ _ _ .default hchecked.2 hplain hq rfl rfl rfl⟩

end Plan

end FullText
