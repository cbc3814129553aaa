import FullText.Proofs.Options.LastSetting
import FullText.Proofs.Options.Refusals

/-!
# Entries made field by field

Settings and command lines give values to some of the fields, each under a key of the field, in the order of
declaration.

* `Entries.ofFields` — such entries; `Entries.given?_ofFields` says that they give just what they were made of.
* `Entries.fault?_ofFields` — their faults are those of the values, field by field.
* `Options.exists_resolve_ofFields`, `Options.resolve_ofFields` — when they come to options, and to which: the values as
  the checks have them in the place of what the options held.
-/

namespace FullText

theorem OptionField.name_mem_keys (f : OptionField) : f.name ∈ f.keys := by cases f <;> simp [keys]

theorem Options.value_ne_null (o : Options) {f : OptionField} (hf : f ∈ OptionField.required) : o.value f ≠ .null := by
  cases f <;> simp [OptionField.required, value, Value.ofNat] at hf ⊢

/-- The entries that give values to fields, each under a key of the field. -/
def Entries.ofFields (key : OptionField → String) (values : OptionField → Option Value) : Entries :=
  OptionField.all.filterMap fun f => (values f).map fun v => (key f, v)

section
variable {key : OptionField → String} {values : OptionField → Option Value} (hkey : ∀ f, key f ∈ f.keys)

namespace Entries

theorem mem_ofFields {e : String × Value} : e ∈ ofFields key values ↔ ∃ f v, values f = some v ∧ (key f, v) = e := by
  simp only [ofFields, List.mem_filterMap, OptionField.mem_all, true_and, Option.map_eq_some_iff]

include hkey

theorem nodup_keys_ofFields : ((ofFields key values).map Prod.fst).Nodup := by
  have hall : OptionField.all.Nodup := by decide
  rw [ofFields, List.map_filterMap]
  refine hall.filterMap fun f g k hf hg => ?_
  simp only [Option.map_map, Option.mem_def, Option.map_eq_some_iff, Function.comp_apply] at hf hg
  obtain ⟨v, -, rfl⟩ := hf
  obtain ⟨w, -, hk⟩ := hg
  exact OptionField.eq_of_mem_keys (hkey f) (hk ▸ hkey g)

theorem namesScopeOnce_ofFields : (ofFields key values).NamesScopeOnce := by
  -- both keys would be the one that the scope's name has here
  have hscope {k : String} (hk : k ∈ OptionField.scopeName.keys) (h : k ∈ (ofFields key values).map Prod.fst) :
      key .scopeName = k := by
    obtain ⟨e, he, rfl⟩ := List.mem_map.1 h
    obtain ⟨f, v, -, rfl⟩ := mem_ofFields.1 he
    rw [OptionField.eq_of_mem_keys hk (hkey f)]
  rintro ⟨hshort, hlong⟩
  have hsame := (hscope (by decide) hshort).symm.trans (hscope (by decide) hlong)
  exact absurd hsame (by decide)

theorem given?_ofFields (f : OptionField) :
    f.given? (ofFields key values) = (values f).map fun v => (key f, v) := by
  refine Option.ext fun ⟨k, v⟩ => ?_
  rw [given?_eq_some_iff (nodup_keys_ofFields hkey) (namesScopeOnce_ofFields hkey), mem_ofFields]
  constructor
  · rintro ⟨hk, g, w, hw, heq⟩
    cases heq
    rw [OptionField.eq_of_mem_keys hk (hkey g), hw, Option.map_some]
  · intro h
    obtain ⟨w, hw, heq⟩ := Option.map_eq_some_iff.1 h
    cases heq
    exact ⟨hkey f, f, v, hw, rfl⟩

theorem fault?_ofFields (f : OptionField) :
    f.fault? true (ofFields key values) =
      (values f).bind fun v => (refusalOf (f.check v)).map (·.at (key f)) := by
  rw [OptionField.fault?_eq, given?_ofFields hkey]
  cases values f with
  | none => rfl
  | some v => rw [Option.map_some, Option.bind_some, Option.bind_some, OptionField.refusal?_eq]

theorem foreign_ofFields {e : String × Value} (he : e ∈ ofFields key values) :
    (ofFields key values).foreign e.1 = false := by
  refine (foreign_eq_false _).2 ⟨?_, ?_⟩
  · obtain ⟨f, v, -, rfl⟩ := mem_ofFields.1 he
    have hf := hkey f
    cases f <;> simp only [OptionField.keys, List.mem_cons, List.not_mem_nil, or_false] at hf
    case scopeName =>
      rcases hf with hf | hf
      · exact .inl hf
      · exact .inr ⟨.scopeName, hf⟩
    all_goals exact .inr ⟨_, hf⟩
  · rintro ⟨hlong, hshort⟩
    exact namesScopeOnce_ofFields hkey ⟨hshort, hlong ▸ List.mem_map_of_mem he⟩

end Entries

namespace Options

variable {d o : Options}

include hkey

theorem exists_resolve_ofFields (hcheck : ∀ f v, values f = some v → ∃ w, f.check v = .ok w)
    (hnull : ∀ f ∈ OptionField.required, values f ≠ some .null) (d : Options) :
    ∃ o, d.resolve (.entries (.ofFields key values)) = .ok o := by
  refine exists_resolve_entries.2 ⟨fun f => ?_, fun e he => Entries.foreign_ofFields hkey he, fun f => ?_⟩
  · rw [← OptionField.fault?_eq_none, Entries.fault?_ofFields hkey]
    cases hv : values f with
    | none => rfl
    | some v =>
      rw [Option.bind_some, refusalOf_eq_none.2 (hcheck f v hv)]
      rfl
  · rw [← Bool.not_eq_true, Entries.makesNull_eq_true (Entries.nodup_keys_ofFields hkey), Entries.mem_ofFields]
    rintro ⟨hf, g, v, hv, he⟩
    obtain ⟨hk, rfl⟩ := Prod.mk.inj he
    have hfg : f = g := OptionField.eq_of_mem_keys f.name_mem_keys (hk ▸ hkey g)
    exact hnull f hf (hfg ▸ hv)

/-- Options whose fields are those of `d`, but for what the checks make of the values, are what the values come to. -/
theorem resolve_ofFields (h : ∀ f, ((values f).map f.check).getD (.ok (d.value f)) = .ok (o.value f)) :
    d.resolve (.entries (.ofFields key values)) = .ok o := by
  have hcheck (f : OptionField) (v : Value) (hv : values f = some v) : f.check v = .ok (o.value f) := by
    have hf := h f
    rwa [hv] at hf
  have hnull : ∀ f ∈ OptionField.required, values f ≠ some .null := by
    intro f hf hv
    have hvalue := hcheck f .null hv
    rw [(OptionField.check_eq_null_iff hf).2 rfl] at hvalue
    exact o.value_ne_null hf (Except.ok.inj hvalue).symm
  obtain ⟨o', ho'⟩ := exists_resolve_ofFields hkey (fun f v hv => ⟨_, hcheck f v hv⟩) hnull d
  have hsame : o' = o := by
    refine ext_value fun f => ?_
    have hf := value_of_resolve ho' f
    rw [Overrides.setting?, Entries.given?_ofFields hkey, Option.map_map] at hf
    exact Except.ok.inj (hf.symm.trans (h f))
  rw [ho', hsame]

end Options

end

end FullText
