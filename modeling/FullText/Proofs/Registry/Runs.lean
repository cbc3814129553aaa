import FullText.Proofs.Plan.Compiled
import FullText.Registry
import Mathlib.Data.List.Nodup

/-!
# Runs of a registry

What a registry holds after any requests, whatever they were and however they ended.

* `Registry.Valid` — the invariant: names are all different, and every scope has a name that is not empty, keeps it in
  its options, and searches at least one column.
* `Registry.answer_snd` — one request adds the scope that it registers, and changes nothing else.
* `Registry.after_eq` — a run adds the scopes of its registrations, in order (`Registry.registrations`).
* `Registry.register_eq_ok_iff` — when a registration succeeds, and what it stores.
-/

namespace FullText

/-! ## The invariant -/

/-- A scope as a registry may hold it. -/
structure Scope.Valid (s : Scope) : Prop where
  name_ne_empty : s.name ≠ ""
  scopeName_eq : s.defaults.scopeName = some s.name
  columns_ne_nil : s.columns ≠ []

/-- A registry as it can come about. -/
structure Registry.Valid (r : Registry) : Prop where
  nodup : r.names.Nodup
  scopes : ∀ s ∈ r.scopes, s.Valid

/-! ## One registration -/

theorem scopeNameOf_ne_empty (columns : List Column) : scopeNameOf columns ≠ "" := by
  simp [scopeNameOf]

/-- The name of a scope: the one that its options give if that is not empty, else one made of its columns. -/
def Options.nameOver (o : Options) (columns : List Column) : String :=
  (o.scopeName.filter (· ≠ "")).getD (scopeNameOf columns)

theorem Options.nameOver_ne_empty (o : Options) (columns : List Column) : o.nameOver columns ≠ "" := by
  unfold nameOver
  cases h : o.scopeName.filter (· ≠ "") with
  | none => exact scopeNameOf_ne_empty columns
  | some name => simpa using (Option.filter_eq_some_iff.1 h).2

/-- The scope over columns that options describe. -/
def Scope.over (columns : List Column) (o : Options) : Scope where
  name := o.nameOver columns
  columns := columns
  defaults := { o with scopeName := some (o.nameOver columns) }

theorem Scope.valid_over {columns : List Column} (h : columns ≠ []) (o : Options) : (Scope.over columns o).Valid :=
  ⟨o.nameOver_ne_empty columns, rfl, h⟩

namespace Registry

variable {r : Registry}

theorem declare_eq_ok {columns : List Value} {options : Entries} {s : Scope} :
    r.declare columns options = .ok s ↔
      columns ≠ [] ∧ ∃ cs o, columnsOf columns = .ok cs ∧ r.defaults.resolve (.entries options) = .ok o ∧
        s = Scope.over cs o := by
  unfold declare
  split
  · next h =>
    refine ⟨fun ht => absurd ht throw_bind_ne_ok, fun ⟨hne, _⟩ => absurd ?_ hne⟩
    simpa using h
  · next h =>
    simp only [bind_eq_ok, pure_eq_ok]
    constructor
    · rintro ⟨cs, hcs, o, ho, rfl⟩
      exact ⟨by simpa using h, cs, o, hcs, ho, rfl⟩
    · rintro ⟨-, cs, o, hcs, ho, rfl⟩
      exact ⟨cs, hcs, o, ho, rfl⟩

theorem find?_eq_none_iff {name : String} : r.find? name = none ↔ name ∉ r.names := by
  simp [find?, names]

/-- When a registration succeeds, and what it stores. -/
theorem register_eq_ok_iff {columns : List Value} {options : Entries} {s : Scope} {r' : Registry} :
    r.register columns options = .ok (s, r') ↔
      columns ≠ [] ∧ ∃ cs o, columnsOf columns = .ok cs ∧ r.defaults.resolve (.entries options) = .ok o ∧
        o.nameOver cs ∉ r.names ∧ s = Scope.over cs o ∧ r' = { r with scopes := r.scopes ++ [s] } := by
  rw [register_eq_ok, declare_eq_ok, find?_eq_none_iff]
  constructor
  · rintro ⟨⟨hne, cs, o, hcs, ho, rfl⟩, hfree, rfl⟩
    exact ⟨hne, cs, o, hcs, ho, hfree, rfl, rfl⟩
  · rintro ⟨hne, cs, o, hcs, ho, hfree, rfl, rfl⟩
    exact ⟨⟨hne, cs, o, hcs, ho, rfl⟩, hfree, rfl⟩

end Registry

/-! ## One request -/

/-- The scope that a request registered, to judge by the answer to it. -/
def Request.registered? : Request → Except Error Reply → Option Scope
  | .register .., .ok (.scope s) => some s
  | _, _ => none

namespace Registry

variable {r : Registry}

theorem registered?_eq_some {q : Request} {s : Scope} :
    q.registered? (r.answer q).1 = some s ↔
      ∃ columns options, q = .register columns options ∧
        r.register columns options = .ok (s, { r with scopes := r.scopes ++ [s] }) := by
  cases q with
  | register columns options =>
    simp only [answer]
    cases h : r.register columns options with
    | error e => simp [Request.registered?, h]
    | ok p =>
      obtain ⟨t, r'⟩ := p
      have hr' := (register_eq_ok.1 h).2.2
      constructor
      · rintro ⟨⟩
        exact ⟨columns, options, rfl, by rw [h, hr']⟩
      · rintro ⟨_, _, ⟨⟩, h'⟩
        rw [h, Except.ok.injEq, Prod.mk.injEq] at h'
        rw [h'.1, Request.registered?]
  | _ => simp [Request.registered?]

/-- A request adds the scope that it registers, and changes nothing else. -/
theorem answer_snd (q : Request) :
    (r.answer q).2 = { r with scopes := r.scopes ++ (q.registered? (r.answer q).1).toList } := by
  cases hs : q.registered? (r.answer q).1 with
  | some s =>
    obtain ⟨columns, options, rfl, h⟩ := registered?_eq_some.1 hs
    simp [answer, h]
  | none =>
    cases q with
    | register columns options =>
      simp only [answer] at hs ⊢
      cases h : r.register columns options with
      | error e => simp
      | ok p => simp [h, Request.registered?] at hs
    | _ => simp [answer]

theorem Valid.answer (h : r.Valid) (q : Request) : (r.answer q).2.Valid := by
  rw [answer_snd]
  cases hs : q.registered? (r.answer q).1 with
  | none => simpa using h
  | some s =>
    obtain ⟨columns, options, rfl, hreg⟩ := registered?_eq_some.1 hs
    obtain ⟨hne, cs, o, hcs, -, hfree, rfl, -⟩ := register_eq_ok_iff.1 hreg
    constructor
    · have hd : r.names.Disjoint [o.nameOver cs] := by simpa using hfree
      simpa [names, Scope.over] using h.nodup.append (List.nodup_singleton _) hd
    · intro t ht
      rcases List.mem_append.1 ht with ht | ht
      · exact h.scopes t ht
      · rw [Option.toList_some, List.mem_singleton] at ht
        rw [ht]
        exact Scope.valid_over (columnsOf_ne_nil hcs hne) o

/-! ## Runs -/

/-- The scopes that requests register, in order. -/
def registrations (r : Registry) (qs : List Request) : List Scope :=
  (qs.zip (r.run qs)).filterMap fun (q, outcome) => q.registered? outcome.1

theorem registrations_cons (r : Registry) (q : Request) (rest : List Request) :
    r.registrations (q :: rest) =
      (q.registered? (r.answer q).1).toList ++ (r.answer q).2.registrations rest := by
  simp only [registrations, run, List.zip_cons_cons, List.filterMap_cons]
  cases q.registered? (r.answer q).1 <;> rfl

/-- A run adds the scopes of its registrations, and keeps the options that the registry lends. -/
theorem after_eq (r : Registry) (qs : List Request) :
    r.after qs = { r with scopes := r.scopes ++ r.registrations qs } := by
  induction qs generalizing r with
  | nil => simp [after, registrations]
  | cons q rest ih =>
    rw [registrations_cons, ← List.append_assoc]
    have : r.after (q :: rest) = (r.answer q).2.after rest := rfl
    rw [this, ih, answer_snd]

theorem Valid.after (h : r.Valid) (qs : List Request) : (r.after qs).Valid := by
  induction qs generalizing r with
  | nil => exact h
  | cons q rest ih => exact ih (h.answer q)

theorem valid_start (defaults : Options) : ({ defaults } : Registry).Valid :=
  ⟨List.nodup_nil, by simp⟩

/-- A scope is found under its name. -/
theorem Valid.get_of_mem (h : r.Valid) {s : Scope} (hs : s ∈ r.scopes) : r.get s.name = .ok s := by
  have hfound : r.find? s.name ≠ none := by
    rw [ne_eq, find?_eq_none_iff, not_not]
    exact List.mem_map_of_mem hs
  obtain ⟨t, ht⟩ := Option.ne_none_iff_exists'.1 hfound
  have hname : t.name = s.name := by simpa using List.find?_some ht
  have : t = s := List.inj_on_of_nodup_map h.nodup (List.mem_of_find?_eq_some ht) hs hname
  rw [get, ht, this]

/-- A registered scope comes from the columns of a request of the run. -/
theorem exists_request_of_mem_registrations {r : Registry} {qs : List Request} {s : Scope}
    (h : s ∈ r.registrations qs) :
    ∃ columns options, .register columns options ∈ qs ∧ columnsOf columns = .ok s.columns := by
  induction qs generalizing r with
  | nil => simp [registrations] at h
  | cons q rest ih =>
    rw [registrations_cons, List.mem_append] at h
    rcases h with h | h
    · rw [Option.mem_toList, registered?_eq_some] at h
      obtain ⟨columns, options, rfl, hreg⟩ := h
      obtain ⟨-, cs, o, hcs, -, -, rfl, -⟩ := register_eq_ok_iff.1 hreg
      exact ⟨columns, options, List.mem_cons_self, hcs⟩
    · obtain ⟨columns, options, hmem, hcs⟩ := ih h
      exact ⟨columns, options, List.mem_cons_of_mem q hmem, hcs⟩

/-- A registration is answered by the scope that it stores. -/
theorem answer_register_eq_ok {columns : List Value} {options : Entries} {reply : Reply} :
    (r.answer (.register columns options)).1 = .ok reply ↔
      columns ≠ [] ∧ ∃ cs o, columnsOf columns = .ok cs ∧ r.defaults.resolve (.entries options) = .ok o ∧
        o.nameOver cs ∉ r.names ∧ reply = .scope (Scope.over cs o) := by
  simp only [answer]
  constructor
  · intro h
    split at h
    · next s r' hreg =>
      obtain ⟨hne, cs, o, hcs, ho, hfree, rfl, -⟩ := register_eq_ok_iff.1 hreg
      exact ⟨hne, cs, o, hcs, ho, hfree, (Except.ok.inj h).symm⟩
    · cases h
  · rintro ⟨hne, cs, o, hcs, ho, hfree, rfl⟩
    rw [register_eq_ok_iff.2 ⟨hne, cs, o, hcs, ho, hfree, rfl, rfl⟩]

/-- **What a run leaves behind**: the registry `r` after any requests `qs` to a new one, under any defaults. -/
theorem state_after_run (defaults : Options) (qs : List Request) :
    let start : Registry := { defaults }
    let r := start.after qs
    r.Valid ∧ r.names = (start.registrations qs).map Scope.name ∧ r.size = (start.registrations qs).length ∧
    (∀ s ∈ r.scopes, r.get s.name = .ok s ∧
      ∃ columns options, .register columns options ∈ qs ∧ columnsOf columns = .ok s.columns) ∧
    -- what is stored stays
    (∀ more, r.scopes <+: (start.after (qs ++ more)).scopes ∧
      ∀ s ∈ r.scopes, (start.after (qs ++ more)).get s.name = .ok s) ∧
    (∀ q e, (r.answer q).1 = .error e → (r.answer q).2 = r) ∧
    (∀ q, q.registered? (r.answer q).1 = none → (r.answer q).2 = r) ∧
    -- one more registration
    (∀ columns options, (∃ reply, (r.answer (.register columns options)).1 = .ok reply) ↔
      columns ≠ [] ∧ ∃ cs o, columnsOf columns = .ok cs ∧ defaults.resolve (.entries options) = .ok o ∧
        o.nameOver cs ∉ r.names) ∧
    (∀ columns options reply, (r.answer (.register columns options)).1 = .ok reply →
      ∃ cs o, columnsOf columns = .ok cs ∧ defaults.resolve (.entries options) = .ok o ∧
        reply = .scope (Scope.over cs o) ∧
        (r.answer (.register columns options)).2 = { r with scopes := r.scopes ++ [Scope.over cs o] }) := by
  intro start r
  have hr : r = { defaults, scopes := start.registrations qs } := by simpa [start] using after_eq start qs
  have hvalid : r.Valid := (valid_start defaults).after qs
  have hlater : ∀ more, start.after (qs ++ more) = r.after more := fun more => List.foldl_append
  have hdefaults : r.defaults = defaults := by rw [hr]
  refine ⟨hvalid, by rw [hr, names], by rw [hr, size], fun s hs => ⟨hvalid.get_of_mem hs, ?_⟩, fun more => ?_,
    fun q e he => answer_of_error he, fun q hq => ?_, fun columns options => ?_, fun columns options reply h => ?_⟩
  · rw [hr] at hs
    exact exists_request_of_mem_registrations hs
  · have hsub : r.scopes <+: (r.after more).scopes := by
      rw [after_eq]
      exact List.prefix_append _ _
    rw [hlater]
    exact ⟨hsub, fun s hs => (hvalid.after more).get_of_mem (hsub.subset hs)⟩
  · rw [answer_snd, hq, Option.toList_none, List.append_nil]
  · simp only [answer_register_eq_ok, hdefaults]
    constructor
    · rintro ⟨reply, hne, cs, o, hcs, ho, hfree, -⟩
      exact ⟨hne, cs, o, hcs, ho, hfree⟩
    · rintro ⟨hne, cs, o, hcs, ho, hfree⟩
      exact ⟨_, hne, cs, o, hcs, ho, hfree, rfl⟩
  · obtain ⟨-, cs, o, hcs, ho, -, rfl⟩ := answer_register_eq_ok.1 h
    refine ⟨cs, o, hcs, hdefaults ▸ ho, rfl, ?_⟩
    rw [answer_snd, h, Request.registered?, Option.toList_some]

end Registry

end FullText
