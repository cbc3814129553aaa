import FullText.Plan.Compile
import FullText.Proofs.Outcome

/-!
# Compiled plans

When compiling a search succeeds, and with which plan.

* `Document.ofValues_eq_ok`, `Query.ofTerms_eq_ok` — the parts.
* `Plan.compile_eq_ok` — the whole; `Plan.ofOptions_of_terms`, `Plan.ofOptions_of_no_terms` — once options are settled.
-/

namespace FullText

theorem length_columnsOf {values : List Value} {cs : List Column} (h : columnsOf values = .ok cs) :
    cs.length = values.length := by
  induction values generalizing cs with
  | nil =>
    cases h
    rfl
  | cons v rest ih =>
    simp only [columnsOf, bind_eq_ok, pure_eq_ok] at h
    obtain ⟨c, -, ds, hds, rfl⟩ := h
    rw [List.length_cons, List.length_cons, ih hds]

theorem columnsOf_ne_nil {values : List Value} {cs : List Column} (h : columnsOf values = .ok cs) (hv : values ≠ []) :
    cs ≠ [] := by
  rintro rfl
  exact hv (List.length_eq_zero_iff.1 (length_columnsOf h).symm)

theorem Document.ofValues_eq_ok {values : List Value} {language : String} {d : Document} :
    Document.ofValues values language = .ok d ↔
      ∃ cs, columnsOf values = .ok cs ∧ cs ≠ [] ∧ d = ⟨cs, language⟩ := by
  unfold Document.ofValues
  rw [bind_eq_ok]
  refine exists_congr fun cs => and_congr_right fun _ => ?_
  split
  · next h =>
    refine ⟨fun ht => absurd ht throw_bind_ne_ok, fun ⟨hne, _⟩ => absurd ?_ hne⟩
    simpa using h
  · next h =>
    rw [pure_eq_ok]
    constructor
    · rintro rfl
      exact ⟨by simpa using h, rfl⟩
    · rintro ⟨-, rfl⟩
      rfl

theorem Query.ofTerms_eq_ok {terms : List Term} {o : Operator} {language : String} {q : Query} :
    Query.ofTerms terms o language = .ok q ↔ terms ≠ [] ∧ q = ⟨terms, o, language⟩ := by
  unfold Query.ofTerms
  split
  · next h =>
    rw [List.isEmpty_iff] at h
    simp [h]
  · next h =>
    rw [List.isEmpty_iff] at h
    rw [Except.ok.injEq]
    exact ⟨fun hq => ⟨h, hq.symm⟩, fun hq => hq.2.symm⟩

namespace Plan

variable {columns : List Value} {text : Option String} {o : Options} {p : Plan}

theorem compile_eq_ok {defaults : Options} {overrides : Overrides} :
    compile columns text defaults overrides = .ok p ↔
      columns ≠ [] ∧ ∃ o, defaults.resolve overrides = .ok o ∧ ofOptions columns text o = .ok p := by
  unfold compile
  split
  · next h =>
    refine ⟨fun ht => absurd ht throw_bind_ne_ok, fun ⟨hne, _⟩ => absurd ?_ hne⟩
    simpa using h
  · next h =>
    rw [bind_eq_ok]
    exact ⟨fun ho => ⟨by simpa using h, ho⟩, fun ho => ho.2⟩

theorem ofOptions_of_compile {defaults : Options} {overrides : Overrides} (ho : defaults.resolve overrides = .ok o)
    (hp : compile columns text defaults overrides = .ok p) : ofOptions columns text o = .ok p := by
  obtain ⟨-, o', ho', hplan⟩ := compile_eq_ok.1 hp
  obtain rfl := Except.ok.inj (ho.symm.trans ho')
  exact hplan

/-- A plan depends on the columns that its values are read as. -/
theorem ofOptions_congr {columns' : List Value} (h : columnsOf columns = columnsOf columns') (text : Option String)
    (o : Options) : ofOptions columns text o = ofOptions columns' text o := by
  simp only [ofOptions, Options.nameFor, Document.ofValues, h]

theorem ofOptions_of_no_terms (h : o.termsOf (text.getD "") = []) :
    ofOptions columns text o = .ok p ↔ ∃ name, o.nameFor columns = .ok name ∧ p = withoutTerms o name := by
  unfold ofOptions
  rw [bind_eq_ok]
  refine exists_congr fun name => and_congr_right fun _ => ?_
  simp only [h, List.isEmpty_nil, if_true, pure_eq_ok]
  exact eq_comm

theorem ofOptions_of_terms (h : o.termsOf (text.getD "") ≠ []) :
    ofOptions columns text o = .ok p ↔
      ∃ name cs, o.nameFor columns = .ok name ∧ columnsOf columns = .ok cs ∧ cs ≠ [] ∧
        p = withTerms o name ⟨cs, o.language⟩ ⟨o.termsOf (text.getD ""), o.operator, o.language⟩ := by
  unfold ofOptions
  simp only [bind_eq_ok, List.isEmpty_iff, if_neg h, Document.ofValues_eq_ok, Query.ofTerms_eq_ok, pure_eq_ok]
  constructor
  · rintro ⟨name, hname, d, ⟨cs, hcs, hne, rfl⟩, q, ⟨-, rfl⟩, rfl⟩
    exact ⟨name, cs, hname, hcs, hne, rfl⟩
  · rintro ⟨name, cs, hname, hcs, hne, rfl⟩
    exact ⟨name, hname, _, ⟨cs, hcs, hne, rfl⟩, _, ⟨h, rfl⟩, rfl⟩

end Plan

end FullText
