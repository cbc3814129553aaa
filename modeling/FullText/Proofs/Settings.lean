import FullText.Settings

/-!
# Settings from the environment

What can go wrong with settings that come from environment variables alone: the values are texts, so only the two
settings that are no words can be at fault.

* `Settings.read_eq_error` — settings are refused for the faults of their values.
* `Settings.location_of_read` — the faults of variables lie with the normalization and the choice to show the score.
* `configuredLevel`, `Settings.logLevel_of_read` — the level of the log that the variables ask for.
-/

namespace FullText

/-! ## One setting -/

namespace SettingField

variable {given : Entries} {env : Environment}

theorem value?_of_nothing (f : SettingField) (env : Environment) :
    f.value? [] env = (f.ofEnvironment? env).map Value.text := rfl

theorem isText_of_value? {f : SettingField} {v : Value} (h : f.value? [] env = some v) : ∃ s, v = .text s := by
  rw [value?_of_nothing, Option.map_eq_some_iff] at h
  obtain ⟨s, -, rfl⟩ := h
  exact ⟨s, rfl⟩

theorem location_of_fault? {f : SettingField} {fault : Fault} (h : f.fault? given env = some fault) :
    fault.location = f.name := by
  obtain ⟨v, -, hv⟩ := Option.bind_eq_some_iff.1 h
  obtain ⟨kind, -, hkind⟩ := Option.bind_eq_some_iff.1 hv
  cases hkind
  rfl

/-- A text is a word, so it is a fault only where a number or a truth value is wanted. -/
theorem eq_of_fault? {f : SettingField} {fault : Fault} (h : f.fault? [] env = some fault) :
    f = .normalization ∨ f = .selectRank := by
  obtain ⟨v, hv, h⟩ := Option.bind_eq_some_iff.1 h
  obtain ⟨kind, hkind, -⟩ := Option.bind_eq_some_iff.1 h
  obtain ⟨s, rfl⟩ := isText_of_value? hv
  cases f with
  | normalization => exact .inl rfl
  | selectRank => exact .inr rfl
  | wildcard | operator | language | rankFunction | logLevel => cases hkind

theorem read_word (f : SettingField) (env : Environment) : f.read checkWord [] env = f.ofEnvironment? env := by
  rw [read, value?_of_nothing]
  cases f.ofEnvironment? env <;> rfl

end SettingField

/-- The level of the log that environment variables ask for. -/
def configuredLevel (env : Environment) : String :=
  (SettingField.logLevel.ofEnvironment? env).getD Settings.default.logLevel

/-! ## All settings -/

namespace Settings

variable {given : Entries} {env : Environment} {s : Settings} {faults : List Fault}

theorem read_eq_error : read given env = .error faults ↔
    faults = SettingField.all.filterMap (·.fault? given env) ∧ faults ≠ [] := by
  unfold read
  cases SettingField.all.filterMap (·.fault? given env) with
  | nil => simp
  | cons fault rest =>
    rw [Except.error.injEq]
    constructor
    · rintro rfl
      exact ⟨rfl, List.cons_ne_nil _ _⟩
    · rintro ⟨rfl, -⟩
      rfl

theorem exists_read_eq_error {f : SettingField} {fault : Fault} (h : f.fault? given env = some fault) :
    ∃ faults, read given env = .error faults := by
  have hmem : fault ∈ SettingField.all.filterMap (·.fault? given env) :=
    List.mem_filterMap.2 ⟨f, f.mem_all, h⟩
  exact ⟨_, read_eq_error.2 ⟨rfl, List.ne_nil_of_mem hmem⟩⟩

theorem location_of_read (h : read [] env = .error faults) :
    ∀ fault ∈ faults, fault.location = SettingField.normalization.name ∨
      fault.location = SettingField.selectRank.name := by
  obtain ⟨rfl, -⟩ := read_eq_error.1 h
  intro fault hfault
  obtain ⟨f, -, hf⟩ := List.mem_filterMap.1 hfault
  rw [SettingField.location_of_fault? hf]
  rcases SettingField.eq_of_fault? hf with rfl | rfl
  · exact .inl rfl
  · exact .inr rfl

theorem logLevel_of_read (h : read [] env = .ok s) : s.logLevel = configuredLevel env := by
  unfold read at h
  split at h
  · cases h
    rw [configuredLevel, ← SettingField.read_word]
  · cases h

end Settings

end FullText
