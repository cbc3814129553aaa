import FullText.Proofs.Options.Layers
import FullText.Proofs.Plan.Rejection
import FullText.Proofs.Registry.Runs

/-!
# Uses of a registered scope

To register a search and then to use its scope is to make the search at once.

* `Plan.ofOptions_over` — the columns of a scope under its name give the plan that the values they were read from give
  without it.
* `Scope.compile_over` — so a scope is a search that waits for its overrides.
* `Registry.map_plan?_search` — a registry answers with what the scope gives.
* `Registry.use_eq_compile` — all ways to use a scope come to the search with the options of both, the later ones laid
  over the earlier.
-/

namespace FullText

/-! ## Plans of a scope -/

section
variable {columns : List Value} {cs : List Column} {text : Option String} {o : Options}

theorem nameFor_eq_nameOver (h : columnsOf columns = .ok cs) : o.nameFor columns = .ok (o.nameOver cs) := by
  unfold Options.nameOver
  cases hown : o.scopeName.filter (· ≠ "") with
  | none => rw [Plan.nameFor_of_no_ownName hown, h, Option.getD_none]; rfl
  | some name => rw [Plan.nameFor_of_ownName hown, Option.getD_some]

theorem nameOver_over (cs : List Column) (o : Options) : (Scope.over cs o).defaults.nameOver cs = o.nameOver cs := by
  show ((some (o.nameOver cs)).filter (· ≠ "")).getD (scopeNameOf cs) = o.nameOver cs
  rw [Option.filter_some, if_pos (decide_eq_true (o.nameOver_ne_empty cs)), Option.getD_some]

/-- The name that a registration settles is the one that would have been settled later. -/
theorem Plan.ofOptions_over (h : columnsOf columns = .ok cs) :
    ofOptions (cs.map .column) text (Scope.over cs o).defaults = ofOptions columns text o := by
  have hname : (Scope.over cs o).defaults.nameFor (cs.map .column) = o.nameFor columns := by
    rw [nameFor_eq_nameOver (columnsOf_columns cs), nameFor_eq_nameOver h, nameOver_over]
  have hdocument : Document.ofValues (cs.map .column) o.language = Document.ofValues columns o.language := by
    rw [Document.ofValues, Document.ofValues, columnsOf_columns, h]
  have hrest : (Scope.over cs o).defaults.language = o.language := rfl
  simp only [ofOptions, hname, hrest, hdocument]
  rfl

end

theorem Layer.apply_over {l : Layer} (h : l.scopeName = none) (cs : List Column) (o : Options) :
    l.apply (Scope.over cs o).defaults = (Scope.over cs (l.apply o)).defaults := by
  simp [Layer.apply, Scope.over, Options.nameOver, h]

/-! ## Ways to use a scope -/

namespace Scope

variable {s : Scope} {text : Option String} {overrides : Overrides} {l : Layer}

theorem layerFor_of_scopeName_none (hl : overrides.toLayer = .ok l) (h : l.scopeName = none) :
    s.layerFor overrides = .ok l := by
  simp [layerFor, hl, h, bind, Except.bind, pure, Except.pure]

theorem compile_congr {overrides' : Overrides} (h : overrides.toLayer = overrides'.toLayer) :
    s.compile text overrides = s.compile text overrides' := by
  rw [compile, layerFor, h, compile, layerFor]

theorem compile_over {columns : List Value} {cs : List Column} (hne : columns ≠ []) (hcs : columnsOf columns = .ok cs)
    (o : Options) (hl : overrides.toLayer = .ok l) (h : l.scopeName = none) :
    (Scope.over cs o).compile text overrides = Plan.compile columns text o overrides := by
  have hmap : cs.map Value.column ≠ [] := by simpa using columnsOf_ne_nil hcs hne
  have hscope : (Scope.over cs o).compile text overrides =
      Plan.compile (cs.map .column) text (Scope.over cs o).defaults (.layer l) := by
    rw [compile, layerFor_of_scopeName_none hl h]
    rfl
  have hlayer : (Overrides.layer l).toLayer = .ok l := rfl
  rw [hscope, Plan.compile_of_ne_nil hmap, Plan.compile_of_ne_nil hne, Options.resolve_of_toLayer hl,
    Options.resolve_of_toLayer hlayer]
  unfold Options.resolveLayer
  cases hnull : l.firstNull? with
  | some f => rfl
  | none =>
    -- overrides that leave the name alone may as well come before it is settled
    rw [Layer.apply_over h]
    exact Plan.ofOptions_over hcs

theorem exists_optionsFor {p : Plan} (h : s.compile text overrides = .ok p) : ∃ o, s.optionsFor overrides = .ok o := by
  obtain ⟨l, hl, hp⟩ := bind_eq_ok.1 h
  obtain ⟨-, o, ho, -⟩ := Plan.compile_eq_ok.1 hp
  exact ⟨o, bind_eq_ok.2 ⟨l, hl, ho⟩⟩

end Scope

def Reply.plan? : Reply → Option Plan
  | .plan p _ => some p
  | _ => none

namespace Registry

variable {r : Registry} {s : Scope}

/-- A registry after any requests. -/
def Reachable (r : Registry) : Prop :=
  ∃ (defaults : Options) (requests : List Request), r = after { defaults } requests

theorem Reachable.get_of_mem (h : r.Reachable) (hs : s ∈ r.scopes) : r.get s.name = .ok s := by
  obtain ⟨defaults, requests, rfl⟩ := h
  exact ((valid_start defaults).after requests).get_of_mem hs

theorem map_plan?_search (h : r.get s.name = .ok s) (text : Option String) (overrides : Overrides) :
    (r.search s.name text overrides).map Reply.plan? = (s.compile text overrides).map some := by
  unfold search
  rw [h]
  cases hp : s.compile text overrides with
  | error e => simp [hp, bind, Except.bind, Except.map]
  | ok p =>
    obtain ⟨o, ho⟩ := Scope.exists_optionsFor hp
    simp [hp, ho, bind, Except.bind, pure, Except.pure, Except.map, Reply.plan?]

/-- The scope that a registration answers with is there from then on. -/
theorem mem_scopes_after {columns : List Value} {given : Entries}
    (h : (r.answer (.register columns given)).1 = .ok (.scope s)) (later : List Request) :
    s ∈ ((r.answer (.register columns given)).2.after later).scopes := by
  rw [after_eq, answer_snd, h]
  simp [Request.registered?]

/-- **To register and to use is to search at once.**  All ways to use a scope, through a registry that holds it or not,
with entries or with their layer, come to the search under the options it was registered with and those of the use. -/
theorem use_eq_compile {defaults : Options} {before : List Request} {columns : List Value} {given overrides : Entries}
    {l : Layer}
    (hs : ((({ defaults } : Registry).after before).answer (.register columns given)).1 = .ok (.scope s))
    (hl : Layer.ofEntries overrides = .ok l) (hname : l.scopeName = none) (text : Option String) :
    let use := s.compile text (.entries overrides)
    (∀ later, s ∈ (({ defaults } : Registry).after (before ++ .register columns given :: later)).scopes) ∧
    (∀ r : Registry, r.Reachable → s ∈ r.scopes →
      (r.answer (.compile s.name text (.entries overrides))).1.map Reply.plan? = use.map some ∧
      (r.answer (.compileLayer s.name text overrides)).1.map Reply.plan? = use.map some) ∧
    s.compile text (.layer l) = use ∧
    -- a null is refused, by the name of some option that is null, and nothing else is
    ((∃ f, l.nulls f = true) →
      ∃ f, l.nulls f = true ∧ use = .error (.invalidOption f.name .null (some "option cannot be null"))) ∧
    ((∀ f, l.nulls f = false) → ∃ p, use = .ok p) ∧
    -- the search at once
    use = Plan.compile columns text defaults (.entries (given.updated overrides)) ∧
    ∃ o, defaults.resolve (.entries given) = .ok o ∧ use = Plan.compile columns text o (.entries overrides) := by
  intro use
  have hlent : (({ defaults } : Registry).after before).defaults = defaults := by rw [after_eq]
  obtain ⟨hne, cs, o, hcs, ho, -, ⟨⟩⟩ := answer_register_eq_ok.1 hs
  rw [hlent] at ho
  have htoLayer : (Overrides.entries overrides).toLayer = .ok l := Overrides.toLayer_entries_eq_ok.2 hl
  have huse : use = Plan.compile columns text o (.entries overrides) := Scope.compile_over hne hcs o htoLayer hname
  have hlayer : (Scope.over cs o).compile text (.layer l) = use := Scope.compile_congr htoLayer.symm
  have hresolve : o.resolve (.entries overrides) = o.resolveLayer l := Options.resolve_of_toLayer htoLayer
  refine ⟨fun later => ?_, fun r hr hmem => ?_, hlayer, fun hnull => ?_, fun hnone => ?_, ?_, o, ho, huse⟩
  · rw [after, List.foldl_append]
    exact mem_scopes_after hs later
  · have hget := hr.get_of_mem hmem
    constructor
    · exact map_plan?_search hget text _
    · -- the layer is read before it is used
      simp only [answer, hget, hl]
      rw [← hlayer]
      exact map_plan?_search hget text _
  · obtain ⟨f, hfirst, hf⟩ := Layer.exists_firstNull? hnull
    refine ⟨f, hf, ?_⟩
    rw [huse, Plan.compile_of_ne_nil hne, hresolve, Options.resolveLayer, hfirst]
    rfl
  · obtain ⟨p, hp⟩ := Plan.exists_ofOptions text (l.apply o) hne hcs
    refine ⟨p, huse.trans (Plan.compile_eq_ok.2 ⟨hne, l.apply o, ?_, hp⟩)⟩
    rw [hresolve, Options.resolveLayer_eq_ok]
    exact ⟨Layer.firstNull?_eq_none.2 hnone, rfl⟩
  · rw [huse, Plan.compile_of_ne_nil hne, Plan.compile_of_ne_nil hne, Options.resolve_updated ho hl hname]

/-- An empty name that is given counts as none, at a registration as in a search at once. -/
theorem use_eq_compile_empty_name :
    let start : Registry := {}
    let given : Entries := [("as", .text ""), ("wildcard", .text "last")]
    let overrides : Entries := [("wildcard", .text "none"), ("operator", .text "or")]
    ∃ s l, (start.answer (.register [.text "people.name"] given)).1 = .ok (.scope s) ∧
      Layer.ofEntries overrides = .ok l ∧ l.scopeName = none ∧ (∀ f, l.nulls f = false) ∧
      ∃ p, ((start.after [.register [.text "people.name"] given, .iterate]).answer
          (.compile "search_by_name" (some "a st.") (.entries overrides))).1.map Reply.plan? = .ok (some p) ∧
        Plan.compile [.text "people.name"] (some "a st.") .default (.entries (given.updated overrides)) = .ok p := by
  intro start given overrides
  let s : Scope := .over [⟨"name", some "people"⟩] { scopeName := some "", wildcard := .last }
  have hcolumns : columnsOf [.text "people.name"] = .ok [⟨"name", some "people"⟩] := rfl
  have hgiven : Options.default.resolve (.entries given) = .ok { scopeName := some "", wildcard := .last } := by cbv
  have hs : (start.answer (.register [.text "people.name"] given)).1 = .ok (.scope s) :=
    answer_register_eq_ok.2 ⟨List.cons_ne_nil _ _, _, _, hcolumns, hgiven, List.not_mem_nil, rfl⟩
  have hl : Layer.ofEntries overrides = .ok { wildcard := some .none, operator := some (some .or) } := by cbv
  have hname : s.name = "search_by_name" := by decide
  obtain ⟨hmem, hanswers, -, -, hsucceeds, hcompile, -⟩ :=
    @use_eq_compile s .default [] _ given overrides _ hs hl rfl (some "a st.")
  have hnone (f : OptionField) :
      ({ wildcard := some .none, operator := some (some .or) } : Layer).nulls f = false := by
    cases f <;> rfl
  obtain ⟨p, hp⟩ := hsucceeds hnone
  refine ⟨s, _, hs, hl, rfl, hnone, p, ?_, hcompile.symm.trans hp⟩
  have hplan := (hanswers _ ⟨_, _, rfl⟩ (hmem [.iterate])).1
  rw [hp, hname] at hplan
  exact hplan

end Registry

end FullText
