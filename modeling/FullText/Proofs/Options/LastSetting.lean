import FullText.Proofs.Options.Fields

/-!
# The last setting counts

What options come to when overrides are laid over them one after the other, whatever form the overrides have.

* `Overrides.setting?`, `Overrides.lastSetting?` — what overrides, or the last of several, set a field to, as the
  field's check has it; nothing if they leave it alone.
* `Options.value_of_resolve`, `Options.value_of_resolveAll` — one step, and a run: a field holds the last thing that it
  was set to, or what it held at first.
* `Options.resolve_above`, `Options.resolve_again`, `Options.resolveAll_swap` — two steps are one step, the same step
  twice is the step, and steps that set different fields may be taken in either order.
-/

namespace FullText

/-- What overrides set a field to: the outcome of checking the value that they give. -/
def Overrides.setting? (overrides : Overrides) (f : OptionField) : Option (Except Refusal Value) :=
  match overrides with
  | .nothing => none
  | .entries es => (f.given? es).map fun given => f.check given.2
  | .layer l => (l.value? f).map .ok

/-- What the last of several overrides that sets a field sets it to. -/
def Overrides.lastSetting? (layers : List Overrides) (f : OptionField) : Option (Except Refusal Value) :=
  layers.reverse.findSome? (·.setting? f)

theorem Overrides.lastSetting?_cons (overrides : Overrides) (rest : List Overrides) (f : OptionField) :
    lastSetting? (overrides :: rest) f = (lastSetting? rest f).or (overrides.setting? f) := by
  simp [lastSetting?, List.findSome?_append]

theorem checkRankColumns_of_no_items {v : Value} (h : v.items? = some []) : checkRankColumns v = .ok none := by
  unfold checkRankColumns
  split
  · rfl
  · rw [h]
    rfl

/-! ## One step -/

/-- Entries without a fault set each field that they give a value for. -/
theorem OptionField.check_eq_ok_of_given {f : OptionField} {entries : Entries} {key : String} {v : Value}
    (h : f.fault? true entries = none) (hv : f.given? entries = some (key, v)) : ∃ w, f.check v = .ok w := by
  have hrefusal : f.refusal? true v = none := refusal?_eq_none_of_given h hv
  rwa [refusal?_eq, refusalOf_eq_none] at hrefusal

theorem Overrides.setting?_of_toLayer {overrides : Overrides} {l : Layer} (h : overrides.toLayer = .ok l)
    (f : OptionField) : overrides.setting? f = (l.value? f).map .ok := by
  cases overrides with
  | nothing =>
    cases h
    cases f <;> rfl
  | layer l' =>
    cases h
    rfl
  | entries es =>
    obtain ⟨hfaults, rfl⟩ := Layer.ofEntries_eq_ok.1 (toLayer_entries_eq_ok.1 h)
    rw [setting?, Layer.value?_given]
    cases hv : f.given? es with
    | none => rfl
    | some given =>
      obtain ⟨w, hw⟩ := OptionField.check_eq_ok_of_given ((entryFaults_eq_nil.1 hfaults).1 f) hv
      rw [Option.map_some, Option.bind_some, hw]
      rfl

namespace Options

variable {d e o : Options} {overrides first second : Overrides}

theorem value_of_resolve (h : d.resolve overrides = .ok o) (f : OptionField) :
    (overrides.setting? f).getD (.ok (d.value f)) = .ok (o.value f) := by
  obtain ⟨l, hl, hnull, rfl⟩ := resolve_eq_ok.1 h
  rw [Overrides.setting?_of_toLayer hl, Layer.value_apply hnull]
  cases l.value? f <;> rfl

/-! ## A run -/

theorem resolveAll_cons {layers : List Overrides} :
    d.resolveAll (overrides :: layers) = .ok o ↔ ∃ e, d.resolve overrides = .ok e ∧ e.resolveAll layers = .ok o := by
  unfold resolveAll
  rw [List.foldlM_cons, bind_eq_ok]

theorem resolveAll_pair :
    d.resolveAll [first, second] = .ok o ↔ ∃ e, d.resolve first = .ok e ∧ e.resolve second = .ok o := by
  have hlast (e : Options) : e.resolveAll [second] = .ok o ↔ e.resolve second = .ok o := by
    rw [resolveAll_cons]
    constructor
    · rintro ⟨e', he', hdone⟩
      cases hdone
      exact he'
    · intro he
      exact ⟨o, he, rfl⟩
  rw [resolveAll_cons]
  exact exists_congr fun e => and_congr_right fun _ => hlast e

theorem value_of_resolveAll {layers : List Overrides} (h : d.resolveAll layers = .ok o) (f : OptionField) :
    (Overrides.lastSetting? layers f).getD (.ok (d.value f)) = .ok (o.value f) := by
  induction layers generalizing d with
  | nil =>
    cases h
    rfl
  | cons overrides rest ih =>
    obtain ⟨e, he, hrest⟩ := resolveAll_cons.1 h
    have hfirst : (overrides.setting? f).getD (.ok (d.value f)) = .ok (e.value f) := value_of_resolve he f
    -- what the rest leaves alone is as the first step left it
    rw [Overrides.lastSetting?_cons, Option.getD_or, hfirst]
    exact ih hrest

/-! ## Two steps -/

/-- Two steps are one step with what either of them sets, as the second sets it if both do. -/
theorem resolve_above (hfirst : d.resolve first = .ok e) (hsecond : e.resolve second = .ok o) :
    ∃ l : Layer, (∀ f, (Overrides.layer l).setting? f = (second.setting? f).or (first.setting? f)) ∧
      d.resolve (.layer l) = .ok o := by
  obtain ⟨lower, hlower, hfree, rfl⟩ := resolve_eq_ok.1 hfirst
  obtain ⟨upper, hupper, -⟩ := resolve_eq_ok.1 hsecond
  refine ⟨upper.above lower, fun f => ?_, ?_⟩
  · rw [Overrides.setting?_of_toLayer hlower, Overrides.setting?_of_toLayer hupper, ← Option.map_or,
      ← Layer.value?_above]
    rfl
  · calc d.resolve (.layer (upper.above lower))
      _ = d.resolveLayer (upper.above lower) := resolve_of_toLayer rfl
      _ = (lower.apply d).resolveLayer upper := resolveLayer_above (resolveLayer_eq_ok.2 ⟨hfree, rfl⟩)
      _ = (lower.apply d).resolve second := (resolve_of_toLayer hupper).symm
      _ = .ok o := hsecond

theorem resolve_again (h : d.resolve overrides = .ok o) : o.resolve overrides = .ok o := by
  obtain ⟨l, hl, hnull, rfl⟩ := resolve_eq_ok.1 h
  refine resolve_eq_ok.2 ⟨l, hl, hnull, ext_value fun f => ?_⟩
  rw [Layer.value_apply hnull (l.apply d), Layer.value_apply hnull d]
  cases l.value? f <;> rfl

theorem resolveAll_swap (hdisjoint : ∀ f, first.setting? f = none ∨ second.setting? f = none)
    (h : d.resolveAll [first, second] = .ok o) : d.resolveAll [second, first] = .ok o := by
  obtain ⟨e, he, ho⟩ := resolveAll_pair.1 h
  obtain ⟨lower, hlower, hlowerNull, rfl⟩ := resolve_eq_ok.1 he
  obtain ⟨upper, hupper, hupperNull, rfl⟩ := resolve_eq_ok.1 ho
  have hcommute : upper.apply (lower.apply d) = lower.apply (upper.apply d) := by
    refine ext_value fun f => ?_
    have hf := hdisjoint f
    rw [Overrides.setting?_of_toLayer hlower, Overrides.setting?_of_toLayer hupper, Option.map_eq_none_iff,
      Option.map_eq_none_iff] at hf
    rw [Layer.value_apply hupperNull, Layer.value_apply hlowerNull, Layer.value_apply hlowerNull,
      Layer.value_apply hupperNull]
    rcases hf with hf | hf <;> simp [hf]
  exact resolveAll_pair.2 ⟨upper.apply d, resolve_eq_ok.2 ⟨upper, hupper, hupperNull, rfl⟩,
    resolve_eq_ok.2 ⟨lower, hlower, hlowerNull, hcommute⟩⟩

/-! ## The laws together -/

/-- **The last setting counts.**  After a run of overrides each field holds what the last of them that set it made of
the value they gave, or what it held at first; a null names no scope, ranks by no columns and marks no term, and neither
does an empty collection rank by any. -/
theorem resolveAll_last_setting (d : Options) :
    (∀ layers o, d.resolveAll layers = .ok o →
      ∀ f, (Overrides.lastSetting? layers f).getD (.ok (d.value f)) = .ok (o.value f)) ∧
    (OptionField.scopeName.check .null = .ok .null ∧ OptionField.rankColumns.check .null = .ok .null ∧
      (∀ v : Value, v.items? = some [] → OptionField.rankColumns.check v = .ok .null) ∧
      OptionField.wildcard.check .null = .ok (.wildcard .none)) ∧
    (∀ first second e o, d.resolve first = .ok e → e.resolve second = .ok o →
      ∃ l : Layer, (∀ f, (Overrides.layer l).setting? f = (second.setting? f).or (first.setting? f)) ∧
        d.resolve (.layer l) = .ok o) ∧
    (∀ overrides o, d.resolve overrides = .ok o → o.resolve overrides = .ok o) ∧
    (∀ first second, (∀ f, first.setting? f = none ∨ second.setting? f = none) →
      ∀ o, d.resolveAll [first, second] = .ok o ↔ d.resolveAll [second, first] = .ok o) := by
  refine ⟨fun layers o h => value_of_resolveAll h, ⟨rfl, rfl, fun v hv => ?_, rfl⟩,
    fun first second e o => resolve_above, fun overrides o => resolve_again, fun first second hdisjoint o => ?_⟩
  · simp only [OptionField.check, checkRankColumns_of_no_items hv]
    rfl
  · exact ⟨resolveAll_swap hdisjoint, resolveAll_swap fun f => (hdisjoint f).symm⟩

/-- A name and columns to rank by, taken back by a null and an empty list two steps later. -/
theorem resolveAll_last_setting_taken_back :
    let layers : List Overrides := [
      .entries [("as", .text "a"), ("rank_columns", .text "title"), ("wildcard", .null)], .nothing,
      .layer { language := some (some "english") }, .entries [("scope_name", .null), ("rank_columns", .list [])]]
    let o : Options := { wildcard := .none, language := "english" }
    Options.default.resolveAll layers = .ok o ∧
      ∀ f, (Overrides.lastSetting? layers f).getD (.ok (Options.default.value f)) = .ok (o.value f) := by
  intro layers o
  have ho : Options.default.resolveAll layers = .ok o := by cbv
  exact ⟨ho, (resolveAll_last_setting .default).1 layers o ho⟩

end Options

end FullText
