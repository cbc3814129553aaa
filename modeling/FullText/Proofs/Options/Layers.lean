import FullText.Options.Resolve
import FullText.Proofs.Outcome
import Mathlib

/-!
# One layer over another

Two layers, or two lists of entries, can be made into one before they are laid over options.

* `Layer.above`, `Entries.updated` — the layer, or the entries, that say what both say; where both set an option, the
  upper one counts.
* `Options.resolveLayer_above` — laying on one layer and then another is laying on the one made of both.
* `Layer.ofEntries_updated` — the entries made of two lists are read as the layer made of their layers, provided that
  the upper ones do not name the scope; `Options.resolve_updated` — hence they come to the same options.
-/

namespace FullText

/-! ## Layers -/

namespace Layer

/-- The options that either of two layers sets, each as the upper one sets it if both do. -/
def above (upper lower : Layer) : Layer where
  scopeName := upper.scopeName.or lower.scopeName
  wildcard := upper.wildcard.or lower.wildcard
  operator := upper.operator.or lower.operator
  normalization := upper.normalization.or lower.normalization
  selectRank := upper.selectRank.or lower.selectRank
  language := upper.language.or lower.language
  rankFunction := upper.rankFunction.or lower.rankFunction
  rankColumns := upper.rankColumns.or lower.rankColumns

variable {upper lower : Layer}

theorem sets_of_nulls {l : Layer} {f : OptionField} (h : l.nulls f = true) : l.sets f = true := by
  cases f <;> simp_all [nulls, sets]

theorem nulls_above (f : OptionField) :
    (upper.above lower).nulls f = if upper.sets f then upper.nulls f else lower.nulls f := by
  have hor {α : Type} [DecidableEq α] (x y : Option (Option α)) :
      (x.or y == some none) = if x.isSome then x == some none else y == some none := by cases x <;> rfl
  cases f with
  | scopeName | wildcard | rankColumns => exact (ite_self false).symm
  | _ => exact hor _ _

theorem firstNull?_eq_none {l : Layer} : l.firstNull? = none ↔ ∀ f, l.nulls f = false := by
  simp only [firstNull?, List.find?_eq_none, Bool.not_eq_true]
  exact ⟨fun h f => h f (OptionField.mem_all f), fun h f _ => h f⟩

theorem exists_firstNull? {l : Layer} (h : ∃ f, l.nulls f = true) : ∃ f, l.firstNull? = some f ∧ l.nulls f = true := by
  obtain ⟨f, hf⟩ := h
  have hsome : (l.firstNull?).isSome = true := List.find?_isSome.2 ⟨f, OptionField.mem_all f, hf⟩
  obtain ⟨g, hg⟩ := Option.isSome_iff_exists.1 hsome
  exact ⟨g, hg, List.find?_some hg⟩

/-- Over a layer without nulls, the nulls are those of the upper layer. -/
theorem firstNull?_above (h : lower.firstNull? = none) : (upper.above lower).firstNull? = upper.firstNull? := by
  have hnulls : (upper.above lower).nulls = upper.nulls := by
    funext f
    rw [nulls_above]
    split
    · rfl
    · next hsets =>
      rw [firstNull?_eq_none.1 h f, eq_comm, ← Bool.not_eq_true]
      exact fun hnull => hsets (sets_of_nulls hnull)
  rw [firstNull?, hnulls, firstNull?]

/-- An option that is null would hide what the lower layer sets, but not be set itself. -/
theorem apply_above (h : upper.firstNull? = none) (o : Options) :
    (upper.above lower).apply o = upper.apply (lower.apply o) := by
  have hor {α : Type} {x y : Option (Option α)} {a : α} (hx : x ≠ some none) :
      (x.getD (y.getD none)).getD a = (x.getD none).getD ((y.getD none).getD a) := by
    rcases x with _ | _ | x
    · rfl
    · exact absurd rfl hx
    · rfl
  have hnulls := firstNull?_eq_none.1 h
  simp only [apply, above, Option.getD_or, Options.mk.injEq, true_and, and_true]
  exact ⟨hor (ne_of_beq_false (hnulls .operator)), hor (ne_of_beq_false (hnulls .normalization)),
    hor (ne_of_beq_false (hnulls .selectRank)), hor (ne_of_beq_false (hnulls .language)),
    hor (ne_of_beq_false (hnulls .rankFunction))⟩

end Layer

namespace Options

variable {d o : Options} {l upper lower : Layer}

theorem resolveLayer_eq_ok : d.resolveLayer l = .ok o ↔ l.firstNull? = none ∧ o = l.apply d := by
  unfold resolveLayer
  split
  · next f h => simp [h]
  · next h => simp [h, eq_comm]

theorem resolveLayer_above (h : d.resolveLayer lower = .ok o) :
    d.resolveLayer (upper.above lower) = o.resolveLayer upper := by
  obtain ⟨hlower, rfl⟩ := resolveLayer_eq_ok.1 h
  simp only [resolveLayer, Layer.firstNull?_above hlower]
  split
  · rfl
  · next hupper => rw [Layer.apply_above hupper]

theorem resolve_of_toLayer {overrides : Overrides} (h : overrides.toLayer = .ok l) :
    d.resolve overrides = d.resolveLayer l := by
  rw [resolve, h]
  rfl

end Options

/-! ## Reading entries -/

theorem refusalOf_eq_none {α : Type} {outcome : Except Refusal α} :
    refusalOf outcome = none ↔ ∃ x, outcome = .ok x := by
  cases outcome <;> simp [refusalOf]

/-- The layer that entries describe, if they have no fault. -/
def Layer.given (entries : Entries) : Layer where
  scopeName := OptionField.scopeName.read checkScopeName entries
  wildcard := OptionField.wildcard.read checkWildcard entries
  operator := OptionField.operator.read (orNull checkOperator) entries
  normalization := OptionField.normalization.read (orNull checkNormalization) entries
  selectRank := OptionField.selectRank.read (orNull checkSelectRank) entries
  language := OptionField.language.read (orNull checkLanguage) entries
  rankFunction := OptionField.rankFunction.read (orNull checkRankFunction) entries
  rankColumns := OptionField.rankColumns.read checkRankColumns entries

theorem Layer.ofEntries_eq_ok {entries : Entries} {l : Layer} :
    Layer.ofEntries entries = .ok l ↔ entryFaults true entries = [] ∧ l = Layer.given entries := by
  unfold Layer.ofEntries
  split
  · next h =>
    rw [Except.ok.injEq, eq_comm]
    exact ⟨fun hl => ⟨h, hl⟩, fun hl => hl.2⟩
  · next h => simpa using fun hnil => absurd hnil h

theorem entryFaults_eq_nil {inLayer : Bool} {entries : Entries} :
    entryFaults inLayer entries = [] ↔
      (∀ f : OptionField, f.fault? inLayer entries = none) ∧ ∀ e ∈ entries, isUnknownKey entries e.1 = false := by
  simp only [entryFaults, unknownKeyFaults, List.append_eq_nil_iff, List.filterMap_eq_nil_iff, List.map_eq_nil_iff,
    List.filter_eq_nil_iff, Bool.not_eq_true]
  exact and_congr_left fun _ => ⟨fun h f => h f (OptionField.mem_all f), fun h f _ => h f⟩

theorem Overrides.toLayer_entries_eq_ok {entries : Entries} {l : Layer} :
    (Overrides.entries entries).toLayer = .ok l ↔ Layer.ofEntries entries = .ok l := by
  unfold toLayer
  cases h : Layer.ofEntries entries <;> simp [h]

namespace OptionField

variable {f : OptionField} {entries : Entries}

theorem refusal?_eq_none_of_given {inLayer : Bool} {key : String} {v : Value} (h : f.fault? inLayer entries = none)
    (hv : f.given? entries = some (key, v)) : f.refusal? inLayer v = none := by
  cases hr : f.refusal? inLayer v with
  | none => rfl
  | some r => simp [fault?, hv, hr] at h

/-- The check that reads a field of a layer accepts what is not refused. -/
def Accepts {α : Type} (f : OptionField) (check : Value → Except Refusal α) : Prop :=
  ∀ v, f.refusal? true v = none → ∃ x, check v = .ok x

theorem accepts_orNull {α : Type} {check : Value → Except Refusal α}
    (h : ∀ v, f.refusal? true v = if v.isNull then none else refusalOf (check v)) : f.Accepts (orNull check) := by
  intro v hv
  rw [h] at hv
  unfold orNull
  split
  · exact ⟨none, rfl⟩
  · next hnull =>
    rw [if_neg hnull, refusalOf_eq_none] at hv
    obtain ⟨x, hx⟩ := hv
    exact ⟨some x, by rw [hx]; rfl⟩

theorem accepts_of_null {α : Type} {check : Value → Except Refusal α} {x : α}
    (h : ∀ v, f.refusal? true v = if v.isNull then none else refusalOf (check v)) (hnull : check .null = .ok x) :
    f.Accepts check := by
  intro v hv
  rw [h] at hv
  cases v with
  | null => exact ⟨x, hnull⟩
  | _ => exact refusalOf_eq_none.1 hv

theorem read_eq_none_iff {α : Type} {check : Value → Except Refusal α} (hcheck : f.Accepts check)
    (h : f.fault? true entries = none) : f.read check entries = none ↔ f.given? entries = none := by
  unfold read
  cases hv : f.given? entries with
  | none => simp
  | some given =>
    obtain ⟨x, hx⟩ := hcheck given.2 (refusal?_eq_none_of_given h hv)
    simp [hx, Except.toOption]

end OptionField

/-! ## Entries of two lists -/

/-- Entries with the values that `more` gives to their keys, and behind them those of `more` under other keys. -/
def Entries.updated (entries more : Entries) : Entries :=
  entries.map (fun e => (e.1, (more.lookup e.1).getD e.2)) ++ more.filter fun e => (entries.lookup e.1).isNone

theorem lookup_map_snd {β γ : Type} (g : String → β → γ) (entries : List (String × β)) (key : String) :
    (entries.map fun e => (e.1, g e.1 e.2)).lookup key = (entries.lookup key).map (g key) := by
  induction entries with
  | nil => rfl
  | cons e rest ih =>
    rw [List.map_cons, List.lookup_cons, List.lookup_cons]
    split
    · next h => rw [← eq_of_beq h, Option.map_some]
    · exact ih

theorem lookup_filter_key {β : Type} (p : String → Bool) (entries : List (String × β)) (key : String) :
    (entries.filter fun e => p e.1).lookup key = if p key then entries.lookup key else none := by
  induction entries with
  | nil => simp
  | cons e rest ih =>
    obtain ⟨k, v⟩ := e
    by_cases hkey : key = k
    · subst hkey
      by_cases hp : p key <;> simp [hp, ih]
    · have hne : (key == k) = false := by simpa using hkey
      by_cases hp : p k <;> simp [hp, List.lookup_cons, hne, ih]

namespace Entries

variable {entries more : Entries}

theorem lookup_updated (key : String) :
    (entries.updated more).lookup key = (more.lookup key).or (entries.lookup key) := by
  rw [updated, List.lookup_append, lookup_map_snd fun k v => (more.lookup k).getD v,
    lookup_filter_key fun k => (entries.lookup k).isNone]
  cases entries.lookup key <;> cases more.lookup key <;> rfl

theorem mem_updated {e : String × Value} (h : e ∈ entries.updated more) :
    (∃ e' ∈ entries, e'.1 = e.1) ∨ e ∈ more := by
  rcases List.mem_append.1 h with h | h
  · obtain ⟨e', he', rfl⟩ := List.mem_map.1 h
    exact .inl ⟨e', he', rfl⟩
  · exact .inr (List.mem_filter.1 h).1

section
variable (hscope : OptionField.scopeName.given? more = none)
include hscope

theorem lookup_scope_keys : more.lookup OptionField.shortScopeKey = none ∧
    more.lookup OptionField.scopeName.name = none := by
  simpa [OptionField.given?, OptionField.keys] using hscope

/-- Whether a key names an option hangs on whether the short key of the scope name is given. -/
theorem isUnknownKey_updated (key : String) : isUnknownKey (entries.updated more) key = isUnknownKey entries key := by
  simp only [isUnknownKey, lookup_updated, (lookup_scope_keys hscope).1, Option.none_or]

theorem isUnknownKey_updated_of_mem {e : String × Value} (h : e ∈ more) :
    isUnknownKey (entries.updated more) e.1 = isUnknownKey more e.1 := by
  have hne : e.1 ≠ OptionField.scopeName.name := by
    intro hkey
    have := List.lookup_eq_none_iff.1 (lookup_scope_keys hscope).2 e h
    simp [hkey] at this
  simp only [isUnknownKey, if_neg hne]

theorem given?_updated (f : OptionField) :
    f.given? (entries.updated more) = (f.given? more).or (f.given? entries) := by
  obtain ⟨hshort, hlong⟩ := lookup_scope_keys hscope
  cases f with
  | scopeName =>
    rw [hscope, Option.none_or]
    simp only [OptionField.given?, OptionField.keys, List.findSome?_cons, List.findSome?_nil, lookup_updated, hshort,
      hlong, Option.none_or]
  | _ => simp [OptionField.given?, OptionField.keys, lookup_updated, Option.map_or]

theorem read_updated {α : Type} {f : OptionField} {check : Value → Except Refusal α} (hcheck : f.Accepts check)
    (hmore : f.fault? true more = none) :
    f.read check (entries.updated more) = (f.read check more).or (f.read check entries) := by
  have hread (es : Entries) : f.read check es = (f.given? es).bind fun given => (check given.2).toOption := rfl
  cases hv : f.given? more with
  | none => simp [hread, given?_updated hscope, hv]
  | some given =>
    have hsome : f.read check more ≠ none := by simp [OptionField.read_eq_none_iff hcheck hmore, hv]
    have hsame : f.read check (entries.updated more) = f.read check more := by
      simp [hread, given?_updated hscope, hv]
    rw [hsame, Option.or_of_isSome (Option.isSome_iff_ne_none.2 hsome)]

theorem fault?_updated {f : OptionField} (hmore : f.fault? true more = none) (hentries : f.fault? true entries = none) :
    f.fault? true (entries.updated more) = none := by
  unfold OptionField.fault? at hmore hentries ⊢
  rw [given?_updated hscope]
  cases hv : f.given? more with
  | none => rwa [Option.none_or]
  | some given => rwa [hv] at hmore

theorem entryFaults_updated (hmore : entryFaults true more = []) (hentries : entryFaults true entries = []) :
    entryFaults true (entries.updated more) = [] := by
  rw [entryFaults_eq_nil] at hmore hentries ⊢
  refine ⟨fun f => fault?_updated hscope (hmore.1 f) (hentries.1 f), fun e he => ?_⟩
  rcases mem_updated he with ⟨e', he', hkey⟩ | he
  · rw [isUnknownKey_updated hscope, ← hkey]
    exact hentries.2 e' he'
  · rw [isUnknownKey_updated_of_mem hscope he]
    exact hmore.2 e he

end

end Entries

theorem Layer.given_updated {entries more : Entries} (hscope : OptionField.scopeName.given? more = none)
    (hmore : entryFaults true more = []) :
    Layer.given (entries.updated more) = (Layer.given more).above (Layer.given entries) := by
  have hfault := (entryFaults_eq_nil.1 hmore).1
  have hread {α : Type} {f : OptionField} {check : Value → Except Refusal α} (hcheck : f.Accepts check) :
      f.read check (entries.updated more) = (f.read check more).or (f.read check entries) :=
    Entries.read_updated hscope hcheck (hfault f)
  rw [given, above, Layer.mk.injEq]
  -- a null names no scope, marks no term and ranks by no columns of its own; the other options are not set by it
  have hnull {α : Type} {f : OptionField} {check : Value → Except Refusal α} {x : α}
      (h : ∀ v, f.refusal? true v = if v.isNull then none else refusalOf (check v)) (hx : check .null = .ok x) :=
    hread (OptionField.accepts_of_null h hx)
  have hset {α : Type} {f : OptionField} {check : Value → Except Refusal α}
      (h : ∀ v, f.refusal? true v = if v.isNull then none else refusalOf (check v)) :=
    hread (OptionField.accepts_orNull h)
  exact ⟨hnull (fun _ => rfl) rfl, hnull (fun _ => rfl) rfl, hset fun _ => rfl, hset fun _ => rfl, hset fun _ => rfl,
    hset fun _ => rfl, hset fun _ => rfl, hnull (fun _ => rfl) rfl⟩

theorem Layer.ofEntries_updated {entries more : Entries} {lower upper : Layer}
    (hlower : Layer.ofEntries entries = .ok lower) (hupper : Layer.ofEntries more = .ok upper)
    (hscope : upper.scopeName = none) : Layer.ofEntries (entries.updated more) = .ok (upper.above lower) := by
  obtain ⟨hentries, rfl⟩ := Layer.ofEntries_eq_ok.1 hlower
  obtain ⟨hmore, rfl⟩ := Layer.ofEntries_eq_ok.1 hupper
  have haccepts : OptionField.scopeName.Accepts checkScopeName :=
    OptionField.accepts_of_null (fun _ => rfl) rfl
  have hgiven := (OptionField.read_eq_none_iff haccepts ((entryFaults_eq_nil.1 hmore).1 .scopeName)).1 hscope
  rw [Layer.ofEntries_eq_ok]
  exact ⟨Entries.entryFaults_updated hgiven hmore hentries, (Layer.given_updated hgiven hmore).symm⟩

theorem Options.resolve_updated {d o : Options} {entries more : Entries} {upper : Layer}
    (ho : d.resolve (.entries entries) = .ok o) (hupper : Layer.ofEntries more = .ok upper)
    (hscope : upper.scopeName = none) :
    d.resolve (.entries (entries.updated more)) = o.resolve (.entries more) := by
  obtain ⟨lower, hlower, hfree⟩ := bind_eq_ok.1 ho
  have hboth := Layer.ofEntries_updated (Overrides.toLayer_entries_eq_ok.1 hlower) hupper hscope
  calc d.resolve (.entries (entries.updated more))
    _ = d.resolveLayer (upper.above lower) := resolve_of_toLayer (Overrides.toLayer_entries_eq_ok.2 hboth)
    _ = o.resolveLayer upper := resolveLayer_above hfree
    _ = o.resolve (.entries more) := (resolve_of_toLayer (Overrides.toLayer_entries_eq_ok.2 hupper)).symm

end FullText
