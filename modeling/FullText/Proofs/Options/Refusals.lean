import FullText.Proofs.Options.Fields

/-!
# Refused entries

When entries are refused as overrides, and by which option the refusal is reported.

* `Entries.Acceptable` — what is asked of entries: known keys, one name, values that pass by themselves, no null where
  none may be.
* `Entries.fails`, `Entries.foreign`, `Entries.makesNull` — a field, a key or an option that speaks against entries;
  `Entries.acceptable_iff` says that nothing else does.
* `Entries.Reported` — the option that refused entries are reported by: the first field that fails, else the first
  foreign key, else the option that is null.
* `Overrides.toLayer_entries` — how entries are read, told from their first fault alone; hence
  `Overrides.toLayer_entries_of_perm`, by which their order does not matter as long as foreign keys do not compete.
-/

namespace FullText

/-! ## What speaks against entries -/

namespace Entries

/-- Whether the value that is given for a field is refused, taken by itself. -/
def fails (entries : Entries) (f : OptionField) : Bool :=
  (f.given? entries).any fun e => (Layer.ofEntries [e]).toOption.isNone

/-- Whether a key names no option.  The long key of the scope name names none beside the short one. -/
def foreign (entries : Entries) (key : String) : Bool :=
  !(key == OptionField.shortScopeKey || (OptionField.all.map OptionField.name).contains key) ||
    (key == OptionField.scopeName.name && (entries.map Prod.fst).contains OptionField.shortScopeKey)

/-- Whether an option is null that may not be. -/
def makesNull (entries : Entries) (f : OptionField) : Bool :=
  OptionField.required.contains f && (entries.lookup f.name).any Value.isNull

/-- That no two options are null that may not be. -/
def NullAtMostOnce (entries : Entries) : Prop :=
  ∀ f g, entries.makesNull f = true → entries.makesNull g = true → f = g

/-- That the scope's name is not given under both of its keys. -/
def NamesScopeOnce (entries : Entries) : Prop :=
  ¬ (OptionField.shortScopeKey ∈ entries.map Prod.fst ∧ OptionField.scopeName.name ∈ entries.map Prod.fst)

/-- What is asked of entries that are to be laid over options. -/
structure Acceptable (entries : Entries) : Prop where
  known : ∀ e ∈ entries, e.1 = OptionField.shortScopeKey ∨ ∃ f : OptionField, e.1 = f.name
  oneName : entries.NamesScopeOnce
  passes : ∀ e ∈ entries, ∃ l, Layer.ofEntries [e] = .ok l
  notNull : ∀ f ∈ OptionField.required, (f.name, Value.null) ∉ entries

/-- That refused entries are reported by an option, under the key that gives it. -/
inductive Reported (entries : Entries) : String → Prop where
  | field {f : OptionField} {key : String} {v : Value} (hf : OptionField.all.find? entries.fails = some f)
      (hv : f.given? entries = some (key, v)) : Reported entries key
  | foreign {e : String × Value} (hf : OptionField.all.find? entries.fails = none)
      (he : entries.find? (fun e => entries.foreign e.1) = some e) : Reported entries e.1
  | null {f : OptionField} (hf : OptionField.all.find? entries.fails = none)
      (he : entries.find? (fun e => entries.foreign e.1) = none) (hnull : entries.makesNull f = true) :
      Reported entries f.name

end Entries

/-! ## Entries without repeated keys -/

section
variable {β : Type} {entries entries' : List (String × β)}

theorem lookup_eq_some_iff_mem (hkeys : (entries.map Prod.fst).Nodup) {key : String} {v : β} :
    entries.lookup key = some v ↔ (key, v) ∈ entries := by
  induction entries with
  | nil => simp
  | cons e rest ih =>
    obtain ⟨k, w⟩ := e
    rw [List.map_cons, List.nodup_cons] at hkeys
    by_cases hk : key = k
    · subst hk
      have hrest : (key, v) ∉ rest := fun h => hkeys.1 (List.mem_map.2 ⟨_, h, rfl⟩)
      simp [hrest, eq_comm]
    · have hne : (key == k) = false := by simpa using hk
      simp [List.lookup_cons, hne, hk, ih hkeys.2]

theorem lookup_perm (hkeys : (entries.map Prod.fst).Nodup) (h : entries.Perm entries') (key : String) :
    entries'.lookup key = entries.lookup key := by
  have hkeys' : (entries'.map Prod.fst).Nodup := (h.map Prod.fst).nodup_iff.1 hkeys
  refine Option.ext fun v => ?_
  rw [lookup_eq_some_iff_mem hkeys, lookup_eq_some_iff_mem hkeys', h.mem_iff]

/-- Where at most one entry is looked for, the order does not matter. -/
theorem find?_perm {p : String × β → Bool} (hp : (entries.filter p).length ≤ 1) (h : entries.Perm entries') :
    entries'.find? p = entries.find? p := by
  have hfilter : (entries.filter p).Perm (entries'.filter p) := h.filter p
  rw [← List.head?_filter, ← List.head?_filter]
  cases hone : entries.filter p with
  | nil =>
    rw [hone] at hfilter
    rw [hfilter.symm.eq_nil]
  | cons e rest =>
    have hrest : rest = [] := by
      rw [hone, List.length_cons] at hp
      exact List.length_eq_zero_iff.1 (by omega)
    subst hrest
    rw [hone] at hfilter
    rw [List.singleton_perm.1 hfilter]

end

theorem lookup_isSome_eq {entries : Entries} (key : String) :
    (entries.lookup key).isSome = (entries.map Prod.fst).contains key := by
  rw [Bool.eq_iff_iff, List.lookup_isSome_iff, List.contains_iff_mem, List.mem_map]
  constructor
  · rintro ⟨e, he, hkey⟩
    exact ⟨e, he, (eq_of_beq hkey).symm⟩
  · rintro ⟨e, he, rfl⟩
    exact ⟨e, he, beq_self_eq_true _⟩

/-! ## One field -/

namespace OptionField

variable {f g : OptionField} {entries : Entries} {key : String} {v : Value}

theorem given?_eq_some (h : f.given? entries = some (key, v)) : key ∈ f.keys ∧ entries.lookup key = some v := by
  obtain ⟨k, hk, hv⟩ := List.exists_of_findSome?_eq_some h
  obtain ⟨w, hw, heq⟩ := Option.map_eq_some_iff.1 hv
  cases heq
  exact ⟨hk, hw⟩

theorem given?_singleton (f : OptionField) (key : String) (v : Value) :
    f.given? [(key, v)] = if key ∈ f.keys then some (key, v) else none := by
  have hlookup (k : String) : ([(key, v)] : Entries).lookup k = if k = key then some v else none := by
    by_cases hk : k = key
    · simp [hk]
    · have hne : (k == key) = false := by simpa using hk
      simp [List.lookup_cons, hne, hk]
  have hone (k : String) : (([(key, v)] : Entries).lookup k).map (fun w => (k, w)) =
      if k = key then some (key, v) else none := by
    rw [hlookup]
    split
    · next h => rw [h, Option.map_some]
    · rfl
  unfold given?
  simp only [hone]
  induction f.keys with
  | nil => rfl
  | cons k rest ih =>
    rw [List.findSome?_cons]
    by_cases hk : k = key
    · simp [hk]
    · simp only [hk, if_false, ih, List.mem_cons, Ne.symm hk, false_or]

/-- No key belongs to two fields. -/
theorem eq_of_mem_keys (hf : key ∈ f.keys) (hg : key ∈ g.keys) : f = g := by
  have hall : ∀ f ∈ all, ∀ g ∈ all, ∀ k ∈ f.keys, k ∈ g.keys → f = g := by decide +kernel
  exact hall f f.mem_all g g.mem_all key hf hg

theorem isUnknownKey_singleton (hkey : key ∈ f.keys) : isUnknownKey [(key, v)] key = false := by
  cases f <;> simp only [keys, List.mem_cons, List.not_mem_nil, or_false] at hkey
  case scopeName => rcases hkey with rfl | rfl <;> rfl
  all_goals subst hkey; rfl

theorem fault?_eq (f : OptionField) (inLayer : Bool) (entries : Entries) :
    f.fault? inLayer entries = (f.given? entries).bind fun e => (f.refusal? inLayer e.2).map (·.at e.1) := by
  unfold fault?
  cases f.given? entries with
  | none => rfl
  | some e =>
    obtain ⟨key, v⟩ := e
    simp only [Option.bind_eq_bind, Option.bind_some]
    cases f.refusal? inLayer v <;> rfl

theorem fault?_singleton (hkey : key ∈ f.keys) :
    g.fault? true [(key, v)] = if f = g then (f.refusal? true v).map (·.at key) else none := by
  rw [fault?_eq, given?_singleton]
  by_cases hg : key ∈ g.keys
  · obtain rfl := eq_of_mem_keys hkey hg
    rw [if_pos hkey, if_pos rfl, Option.bind_some]
  · have hne : f ≠ g := by
      rintro rfl
      exact hg hkey
    rw [if_neg hg, if_neg hne]
    rfl

/-- A value passes by itself just when the field that its key names does not refuse it. -/
theorem ofEntries_singleton (hkey : key ∈ f.keys) :
    (∃ l, Layer.ofEntries [(key, v)] = .ok l) ↔ f.refusal? true v = none := by
  have hfaults : entryFaults true [(key, v)] = [] ↔ f.refusal? true v = none := by
    rw [entryFaults_eq_nil]
    simp only [fault?_singleton hkey, List.forall_mem_singleton, isUnknownKey_singleton hkey, and_true]
    constructor
    · intro h
      simpa using h f
    · intro h g
      simp [h]
  simp only [Layer.ofEntries_eq_ok, exists_and_left, exists_eq, and_true, hfaults]

theorem fails_eq (f : OptionField) (entries : Entries) : entries.fails f = (f.fault? true entries).isSome := by
  rw [fault?_eq, Entries.fails]
  cases hv : f.given? entries with
  | none => rfl
  | some e =>
    obtain ⟨key, v⟩ := e
    have hiff := ofEntries_singleton (v := v) (given?_eq_some hv).1
    cases hr : f.refusal? true v with
    | none =>
      obtain ⟨l, hl⟩ := hiff.2 hr
      simp [hl, hr, Except.toOption]
    | some r =>
      cases hl : Layer.ofEntries [(key, v)] with
      | ok l => simp [hiff.1 ⟨l, hl⟩] at hr
      | error faults => simp [hl, hr, Except.toOption]

theorem fault?_eq_none : f.fault? true entries = none ↔ entries.fails f = false := by
  rw [fails_eq, Option.isSome_eq_false_iff, Option.isNone_iff_eq_none]

theorem findSome?_fault?_eq_none (h : all.find? entries.fails = none) :
    all.findSome? (·.fault? true entries) = none := by
  refine List.findSome?_eq_none_iff.2 fun f hf => fault?_eq_none.2 ?_
  simpa using List.find?_eq_none.1 h f hf

/-- The first field that fails has the first fault. -/
theorem findSome?_fault? (h : all.find? entries.fails = some f) :
    all.findSome? (·.fault? true entries) = f.fault? true entries := by
  obtain ⟨hfails, before, after, hall, hbefore⟩ := List.find?_eq_some_iff_append.1 h
  have hnone : before.findSome? (·.fault? true entries) = none := by
    refine List.findSome?_eq_none_iff.2 fun g hg => fault?_eq_none.2 ?_
    simpa using hbefore g hg
  rw [fails_eq, Option.isSome_iff_exists] at hfails
  obtain ⟨fault, hfault⟩ := hfails
  rw [hall, List.findSome?_append, hnone, Option.none_or, List.findSome?_cons, hfault]

theorem check_eq_null_iff (hf : f ∈ required) : f.check v = .ok .null ↔ v.isNull = true := by
  -- none of the five checks makes a null of another value
  have hset {α : Type} {check : Value → Except Refusal α} (toValue : α → Value) (hnull : ∀ a, toValue a ≠ .null) :
      (orNull check v).map (Value.nullOr toValue) = .ok .null ↔ v.isNull = true := by
    unfold orNull
    cases v.isNull with
    | true => exact ⟨fun _ => rfl, fun _ => rfl⟩
    | false => cases check v <;> simp [Except.map, Value.nullOr, hnull]
  cases f with
  | scopeName | wildcard | rankColumns => simp [required] at hf
  | operator => exact hset .operator fun _ h => by cases h
  | normalization => exact hset .ofNat fun _ h => by cases h
  | selectRank => exact hset .bool fun _ h => by cases h
  | language => exact hset .text fun _ h => by cases h
  | rankFunction => exact hset .rankFunction fun _ h => by cases h

/-- A required option has one key. -/
theorem given?_of_required (hf : f ∈ required) (entries : Entries) :
    f.given? entries = (entries.lookup f.name).map fun v => (f.name, v) := by
  cases f with
  | scopeName | wildcard | rankColumns => simp [required] at hf
  | _ => simp [given?, keys]

theorem nulls_given (f : OptionField) (entries : Entries) : (Layer.given entries).nulls f = entries.makesNull f := by
  rw [Bool.eq_iff_iff, Layer.nulls_eq_true, Entries.makesNull, Bool.and_eq_true, List.contains_iff_mem]
  refine and_congr_right fun hf => ?_
  rw [Layer.value?_given, given?_of_required hf]
  cases entries.lookup f.name with
  | none => simp
  | some v =>
    rw [Option.map_some, Option.bind_some, Option.any_some, ← check_eq_null_iff hf]
    cases f.check v <;> simp [Except.toOption]

end OptionField

/-! ## Keys -/

theorem Entries.foreign_eq (entries : Entries) (key : String) : entries.foreign key = isUnknownKey entries key := by
  have hlong : (OptionField.all.map OptionField.name).contains OptionField.scopeName.name = true := by decide
  have hne : OptionField.scopeName.name ≠ OptionField.shortScopeKey := by decide
  unfold foreign isUnknownKey
  by_cases hshort : key = OptionField.shortScopeKey
  · simp [hshort, hne.symm]
  · by_cases hscope : key = OptionField.scopeName.name
    · subst hscope
      rw [if_neg hshort, if_pos rfl, hlong, lookup_isSome_eq]
      simp
    · have h1 : (key == OptionField.shortScopeKey) = false := by simpa using hshort
      have h2 : (key == OptionField.scopeName.name) = false := by simpa using hscope
      simp [h1, h2, hshort, hscope]

/-! ## Entries that are accepted -/

namespace Entries

variable {entries : Entries}

/-- With one name for the scope, a field is given by whichever entry has one of its keys. -/
theorem given?_eq_some_iff (hkeys : (entries.map Prod.fst).Nodup) (hone : entries.NamesScopeOnce) {f : OptionField}
    {key : String} {v : Value} :
    f.given? entries = some (key, v) ↔ key ∈ f.keys ∧ (key, v) ∈ entries := by
  constructor
  · intro h
    obtain ⟨hkey, hv⟩ := OptionField.given?_eq_some h
    exact ⟨hkey, (lookup_eq_some_iff_mem hkeys).1 hv⟩
  · rintro ⟨hkey, hmem⟩
    have hv : entries.lookup key = some v := (lookup_eq_some_iff_mem hkeys).2 hmem
    cases f <;> simp only [OptionField.keys, List.mem_cons, List.not_mem_nil, or_false] at hkey
    case scopeName =>
      rcases hkey with rfl | rfl
      · simp [OptionField.given?, OptionField.keys, hv]
      · -- the long key is looked at only where the short one is absent
        have hshort : entries.lookup OptionField.shortScopeKey = none := by
          rw [← Option.isNone_iff_eq_none, ← Option.not_isSome, lookup_isSome_eq, Bool.not_eq_true', ← Bool.not_eq_true,
            List.contains_iff_mem]
          exact fun h => hone ⟨h, List.mem_map.2 ⟨_, hmem, rfl⟩⟩
        simp [OptionField.given?, OptionField.keys, hshort, hv]
    all_goals
      subst hkey
      simp [OptionField.given?, OptionField.keys, hv]

theorem foreign_eq_false (key : String) :
    entries.foreign key = false ↔ (key = OptionField.shortScopeKey ∨ ∃ f : OptionField, key = f.name) ∧
      ¬ (key = OptionField.scopeName.name ∧ OptionField.shortScopeKey ∈ entries.map Prod.fst) := by
  have hname : key ∈ OptionField.all.map OptionField.name ↔ ∃ f : OptionField, key = f.name := by
    rw [List.mem_map]
    exact exists_congr fun f => ⟨fun h => h.2.symm, fun h => ⟨f.mem_all, h.symm⟩⟩
  rw [foreign, Bool.or_eq_false_iff, Bool.not_eq_false', ← Bool.not_eq_true]
  simp only [Bool.or_eq_true, Bool.and_eq_true, beq_iff_eq, List.contains_iff_mem, hname]

theorem makesNull_eq_true (hkeys : (entries.map Prod.fst).Nodup) (f : OptionField) :
    entries.makesNull f = true ↔ f ∈ OptionField.required ∧ (f.name, Value.null) ∈ entries := by
  rw [makesNull, Bool.and_eq_true, List.contains_iff_mem, ← lookup_eq_some_iff_mem hkeys]
  cases entries.lookup f.name with
  | none => simp
  | some v => cases v <;> simp [Value.isNull]

theorem fails_eq_false (f : OptionField) :
    entries.fails f = false ↔ ∀ e, f.given? entries = some e → ∃ l, Layer.ofEntries [e] = .ok l := by
  unfold fails
  cases f.given? entries with
  | none => simp
  | some e => cases hl : Layer.ofEntries [e] <;> simp [hl, Except.toOption]

/-- Acceptable entries are those that no field, no key and no null speaks against. -/
theorem acceptable_iff (hkeys : (entries.map Prod.fst).Nodup) :
    entries.Acceptable ↔ (∀ f, entries.fails f = false) ∧ (∀ e ∈ entries, entries.foreign e.1 = false) ∧
      ∀ f, entries.makesNull f = false := by
  constructor
  · rintro ⟨hknown, hone, hpasses, hnull⟩
    refine ⟨fun f => (fails_eq_false f).2 fun e he => ?_, fun e he => (foreign_eq_false _).2 ⟨hknown e he, ?_⟩,
      fun f => ?_⟩
    · exact hpasses e ((given?_eq_some_iff hkeys hone).1 he).2
    · rintro ⟨hlong, hshort⟩
      exact hone ⟨hshort, hlong ▸ List.mem_map_of_mem he⟩
    · rw [← Bool.not_eq_true, makesNull_eq_true hkeys]
      rintro ⟨hf, hmem⟩
      exact hnull f hf hmem
  · rintro ⟨hfails, hforeign, hnull⟩
    have hone : entries.NamesScopeOnce := by
      rintro ⟨hshort, hlong⟩
      obtain ⟨e, he, hkey⟩ := List.mem_map.1 hlong
      exact ((foreign_eq_false _).1 (hforeign e he)).2 ⟨hkey, hshort⟩
    have hknown (e : String × Value) (he : e ∈ entries) := ((foreign_eq_false _).1 (hforeign e he)).1
    refine ⟨hknown, hone, fun e he => ?_, fun f hf hmem => ?_⟩
    · obtain ⟨f, hf⟩ : ∃ f : OptionField, e.1 ∈ f.keys := by
        rcases hknown e he with hkey | ⟨f, hkey⟩
        · exact ⟨.scopeName, by simp [hkey, OptionField.keys]⟩
        · exact ⟨f, by cases f <;> simp [hkey, OptionField.keys]⟩
      exact (fails_eq_false f).1 (hfails f) e ((given?_eq_some_iff hkeys hone).2 ⟨hf, he⟩)
    · have hf' := (makesNull_eq_true hkeys f).2 ⟨hf, hmem⟩
      rw [hnull f] at hf'
      cases hf'

end Entries

/-- Entries come to options just when no field, no key and no null speaks against them. -/
theorem Options.exists_resolve_entries {d : Options} {entries : Entries} :
    (∃ o, d.resolve (.entries entries) = .ok o) ↔ (∀ f, entries.fails f = false) ∧
      (∀ e ∈ entries, entries.foreign e.1 = false) ∧ ∀ f, entries.makesNull f = false := by
  simp only [resolve_eq_ok, Overrides.toLayer_entries_eq_ok, Layer.ofEntries_eq_ok, entryFaults_eq_nil,
    OptionField.fault?_eq_none, ← Entries.foreign_eq, ← OptionField.nulls_given]
  constructor
  · rintro ⟨o, l, ⟨⟨hfields, hforeign⟩, rfl⟩, hnull, -⟩
    exact ⟨hfields, hforeign, Layer.firstNull?_eq_none.1 hnull⟩
  · rintro ⟨hfields, hforeign, hnull⟩
    exact ⟨_, _, ⟨⟨hfields, hforeign⟩, rfl⟩, Layer.firstNull?_eq_none.2 hnull, rfl⟩

/-! ## The first fault -/

/-- The first fault of entries is that of the first field that fails, else that of the first foreign key. -/
theorem head?_entryFaults (entries : Entries) :
    (entryFaults true entries).head? = (OptionField.all.findSome? (·.fault? true entries)).or
      ((entries.find? fun e => entries.foreign e.1).map fun e => ⟨e.1, .unknownKey, e.2⟩) := by
  simp only [entryFaults, unknownKeyFaults, List.head?_append, List.head?_filterMap, List.head?_map, List.head?_filter,
    Entries.foreign_eq]

/-- How entries are read, told from their first fault. -/
theorem Overrides.toLayer_entries (entries : Entries) :
    (Overrides.entries entries).toLayer =
      match (entryFaults true entries).head? with
      | none => .ok (Layer.given entries)
      | some fault => .error (.invalidOption fault.location fault.input (some fault.kind.message)) := by
  cases hfaults : entryFaults true entries with
  | nil => exact toLayer_entries_eq_ok.2 (Layer.ofEntries_eq_ok.2 ⟨hfaults, rfl⟩)
  | cons fault rest =>
    simp only [toLayer, Layer.ofEntries, hfaults, List.head?_cons, Error.ofFaults]

namespace Options

variable {entries : Entries} {option : String}

theorem resolve_of_head?_entryFaults {fault : Fault} (h : (entryFaults true entries).head? = some fault) (d : Options) :
    d.resolve (.entries entries) =
      .error (.invalidOption fault.location fault.input (some fault.kind.message)) := by
  rw [resolve, Overrides.toLayer_entries, h]
  rfl

/-- Entries that are refused are reported by the option that stands for them, whatever the options below hold. -/
theorem resolve_of_reported (hnull : entries.NullAtMostOnce) (h : entries.Reported option) :
    ∃ value reason, ∀ d : Options, d.resolve (.entries entries) = .error (.invalidOption option value reason) := by
  cases h with
  | @field f key v hf hv =>
    have hfails : entries.fails f = true := List.find?_some hf
    rw [OptionField.fails_eq, OptionField.fault?_eq, hv, Option.bind_some, Option.isSome_map,
      Option.isSome_iff_exists] at hfails
    obtain ⟨r, hr⟩ := hfails
    have hfault : f.fault? true entries = some (r.at option) := by
      rw [OptionField.fault?_eq, hv, Option.bind_some, hr, Option.map_some]
    have hfirst : (entryFaults true entries).head? = some (r.at option) := by
      rw [head?_entryFaults, OptionField.findSome?_fault? hf, hfault, Option.some_or]
    exact ⟨r.input, some r.kind.message, resolve_of_head?_entryFaults hfirst⟩
  | @foreign e hf he =>
    have hfirst : (entryFaults true entries).head? = some ⟨e.1, .unknownKey, e.2⟩ := by
      rw [head?_entryFaults, OptionField.findSome?_fault?_eq_none hf, he, Option.none_or, Option.map_some]
    exact ⟨e.2, some FaultKind.unknownKey.message, resolve_of_head?_entryFaults hfirst⟩
  | @null f hf he hmakes =>
    have hlayer : (Overrides.entries entries).toLayer = .ok (Layer.given entries) := by
      rw [Overrides.toLayer_entries, head?_entryFaults, OptionField.findSome?_fault?_eq_none hf, he]
      rfl
    have hfirst : (Layer.given entries).firstNull? = some f := by
      cases hnone : (Layer.given entries).firstNull? with
      | none =>
        have hf' := Layer.firstNull?_eq_none.1 hnone f
        rw [OptionField.nulls_given, hmakes] at hf'
        cases hf'
      | some g =>
        have hg : entries.makesNull g = true := by
          rw [← OptionField.nulls_given]
          exact List.find?_some hnone
        rw [hnull g f hg hmakes]
    refine ⟨.null, some "option cannot be null", fun d => ?_⟩
    rw [resolve_of_toLayer hlayer, resolveLayer, hfirst]

end Options

/-- There is always an option to report refused entries by. -/
theorem Entries.exists_reported {entries : Entries} (hkeys : (entries.map Prod.fst).Nodup) (h : ¬ entries.Acceptable) :
    ∃ option, entries.Reported option := by
  cases hf : OptionField.all.find? entries.fails with
  | some f =>
    have hfails : entries.fails f = true := List.find?_some hf
    obtain ⟨⟨key, v⟩, hv, -⟩ := (Option.any_eq_true _ _).1 hfails
    exact ⟨key, .field hf hv⟩
  | none =>
    cases he : entries.find? (fun e => entries.foreign e.1) with
    | some e => exact ⟨e.1, .foreign hf he⟩
    | none =>
      obtain ⟨f, hnull⟩ : ∃ f, entries.makesNull f = true := by
        by_contra hnone
        simp only [not_exists, Bool.not_eq_true] at hnone
        refine h ((acceptable_iff hkeys).2 ⟨fun f => ?_, fun e hmem => ?_, hnone⟩)
        · simpa using List.find?_eq_none.1 hf f f.mem_all
        · simpa using List.find?_eq_none.1 he e hmem
      exact ⟨f.name, .null hf he hnull⟩

/-! ## The order of the entries -/

section
variable {entries entries' : Entries} (hkeys : (entries.map Prod.fst).Nodup) (h : entries.Perm entries')
include hkeys h

theorem OptionField.given?_perm (f : OptionField) : f.given? entries' = f.given? entries := by
  simp only [given?, lookup_perm hkeys h]

theorem Entries.foreign_perm : entries'.foreign = entries.foreign := by
  funext key
  simp only [foreign_eq, isUnknownKey, lookup_perm hkeys h]

/-- Only foreign keys compete by position. -/
theorem Overrides.toLayer_entries_of_perm
    (hone : (∃ f, entries.fails f = true) ∨ (entries.filter fun e => entries.foreign e.1).length ≤ 1) :
    (Overrides.entries entries').toLayer = (Overrides.entries entries).toLayer := by
  have hfault : (OptionField.fault? · true entries') = (OptionField.fault? · true entries) := by
    funext f
    rw [OptionField.fault?_eq, OptionField.fault?_eq, OptionField.given?_perm hkeys h]
  have hgiven : Layer.given entries' = Layer.given entries := by
    simp only [Layer.given, OptionField.read, OptionField.given?_perm hkeys h]
  have hfirst : (entryFaults true entries').head? = (entryFaults true entries).head? := by
    rw [head?_entryFaults, head?_entryFaults, hfault, Entries.foreign_perm hkeys h]
    rcases hone with ⟨f, hf⟩ | hone
    · rw [OptionField.fails_eq] at hf
      have hsome : (OptionField.all.findSome? (·.fault? true entries)).isSome :=
        List.findSome?_isSome_iff.2 ⟨f, f.mem_all, hf⟩
      rw [Option.or_of_isSome hsome, Option.or_of_isSome hsome]
    · -- one foreign key at most is there to be found
      rw [find?_perm hone h]
  rw [toLayer_entries, toLayer_entries, hfirst, hgiven]

end

/-! ## The refusals together -/

namespace Options

/-- **Acceptable entries are laid on, others refused by the option that stands for them.**  Both hang on the entries
alone and not on the options below, nor on the order of the entries as long as foreign keys do not compete.  Keys are
not repeated, and one option at most is null that may not be. -/
theorem resolves_iff_acceptable {entries : Entries} (hkeys : (entries.map Prod.fst).Nodup)
    (hnull : entries.NullAtMostOnce) :
    (∀ d : Options, (∃ o, d.resolve (.entries entries) = .ok o) ↔ entries.Acceptable) ∧
    (¬ entries.Acceptable → ∃ option, entries.Reported option) ∧
    (∀ option, entries.Reported option → ∃ value reason, ∀ d : Options,
      d.resolve (.entries entries) = .error (.invalidOption option value reason)) ∧
    (∀ entries' : Entries, entries.Perm entries' →
      (∃ f, entries.fails f = true) ∨ (entries.filter fun e => entries.foreign e.1).length ≤ 1 →
      ∀ d : Options, d.resolve (.entries entries') = d.resolve (.entries entries)) := by
  refine ⟨fun d => ?_, Entries.exists_reported hkeys, fun option => resolve_of_reported hnull,
    fun entries' h hone d => ?_⟩
  · rw [Entries.acceptable_iff hkeys]
    exact exists_resolve_entries
  · rw [resolve, resolve, Overrides.toLayer_entries_of_perm hkeys h hone]

/-- A number for the scope's name goes before a key that names nothing, and before a null. -/
theorem resolves_iff_acceptable_refused :
    let entries : Entries := [("colour", .int 1), ("operator", .null), ("scope_name", .int 5)]
    (entries.map Prod.fst).Nodup ∧ entries.NullAtMostOnce ∧ (¬ entries.Acceptable ∧ entries.Reported "scope_name") ∧
    (∃ value reason, ∀ d : Options,
      d.resolve (.entries entries) = .error (.invalidOption "scope_name" value reason)) ∧
    ∀ d : Options, d.resolve (.entries entries.reverse) = d.resolve (.entries entries) := by
  intro entries
  have hkeys : (entries.map Prod.fst).Nodup := by decide
  have hoperator (f : OptionField) : entries.makesNull f = true → f = .operator := by cases f <;> decide
  have hnull : entries.NullAtMostOnce := fun f g hf hg => (hoperator f hf).trans (hoperator g hg).symm
  have hfirst : OptionField.all.find? entries.fails = some .scopeName := rfl
  obtain ⟨haccepted, -, hreported, hperm⟩ := resolves_iff_acceptable hkeys hnull
  have hname : entries.Reported "scope_name" := .field hfirst rfl
  obtain ⟨value, reason, herror⟩ := hreported "scope_name" hname
  refine ⟨hkeys, hnull, ⟨fun hacceptable => ?_, hname⟩, ⟨value, reason, herror⟩, ?_⟩
  · obtain ⟨o, ho⟩ := (haccepted .default).2 hacceptable
    rw [herror] at ho
    cases ho
  · exact hperm entries.reverse entries.reverse_perm.symm (.inl ⟨.scopeName, rfl⟩)

/-- The scope's name is not always reported under its short key. -/
theorem not_reported_by_short_key :
    ¬ ∀ (entries : Entries) (d : Options), (entries.map Prod.fst).Nodup → entries.NullAtMostOnce →
      OptionField.all.find? entries.fails = some .scopeName →
      ∃ value reason, d.resolve (.entries entries) =
        .error (.invalidOption OptionField.shortScopeKey value reason) := by
  intro h
  let entries : Entries := [("scope_name", .int 5)]
  have hnone (f : OptionField) : entries.makesNull f = false := by cases f <;> rfl
  have hnull : entries.NullAtMostOnce := fun f _ hf _ => absurd hf (by simp [hnone f])
  obtain ⟨value, reason, herror⟩ := h entries .default (by decide) hnull rfl
  have hoption : Options.default.resolve (.entries entries) =
      .error (.invalidOption "scope_name" (.int 5) (some FaultKind.notText.message)) := rfl
  rw [hoption] at herror
  have hkey : "scope_name" = OptionField.shortScopeKey := (Error.invalidOption.inj (Except.error.inj herror)).1
  exact absurd hkey (by decide)

end Options

end FullText
