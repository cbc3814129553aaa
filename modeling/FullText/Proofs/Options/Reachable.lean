import FullText.Proofs.Options.Layers

/-!
# Options that can come about

* `Overrides.Checked` — overrides that a caller can have: a layer is one that was read from entries.
* `Options.Reachable` — what comes of laying such overrides over the default options, one after the other, and of fixing
  a name.
* `Options.Reachable.rankColumns_ne_nil` — a search by no columns at all is never among them.
-/

namespace FullText

/-- That a layer among the overrides was read from entries. -/
def Overrides.Checked : Overrides → Prop
  | .layer l => ∃ entries, Layer.ofEntries entries = .ok l
  | .nothing | .entries _ => True

/-- The options that overrides make of the default ones; a registration fixes the name besides. -/
inductive Options.Reachable : Options → Prop where
  | default : Reachable Options.default
  | named {o : Options} (h : Reachable o) (name : String) : Reachable { o with scopeName := some name }
  | resolve {d o : Options} {overrides : Overrides} (h : Reachable d) (hchecked : overrides.Checked)
      (ho : d.resolve overrides = .ok o) : Reachable o

theorem Overrides.Checked.exists_given {overrides : Overrides} (h : overrides.Checked) {l : Layer}
    (hl : overrides.toLayer = .ok l) : ∃ entries, l = Layer.given entries := by
  cases overrides with
  | nothing =>
    cases hl
    exact ⟨[], rfl⟩
  | entries es => exact ⟨es, (Layer.ofEntries_eq_ok.1 (toLayer_entries_eq_ok.1 hl)).2⟩
  | layer l' =>
    cases hl
    obtain ⟨es, hes⟩ := h
    exact ⟨es, (Layer.ofEntries_eq_ok.1 hes).2⟩

theorem Options.resolve_eq_ok {d o : Options} {overrides : Overrides} :
    d.resolve overrides = .ok o ↔ ∃ l, overrides.toLayer = .ok l ∧ l.firstNull? = none ∧ o = l.apply d := by
  unfold resolve
  rw [bind_eq_ok]
  simp only [resolveLayer_eq_ok]

/-- An empty collection is read as none. -/
theorem checkRankColumns_ne_nil (v : Value) : checkRankColumns v ≠ .ok (some []) := by
  unfold checkRankColumns
  split
  · simp
  · split
    · simp
    · split
      · simp
      · simp
      · next cs hcs _ => simpa using hcs

theorem Layer.rankColumns_given_ne_nil (entries : Entries) : (Layer.given entries).rankColumns ≠ some (some []) := by
  intro h
  obtain ⟨given, -, hread⟩ := Option.bind_eq_some_iff.1 h
  cases hcheck : checkRankColumns given.2 with
  | error r => simp [hcheck, Except.toOption] at hread
  | ok cs =>
    rw [hcheck] at hread
    exact checkRankColumns_ne_nil given.2 (by rw [hcheck, Option.some.inj hread])

theorem Options.rankColumns_resolve {d o : Options} {overrides : Overrides} (hd : d.rankColumns ≠ some [])
    (hchecked : overrides.Checked) (ho : d.resolve overrides = .ok o) : o.rankColumns ≠ some [] := by
  obtain ⟨l, hl, -, rfl⟩ := resolve_eq_ok.1 ho
  obtain ⟨entries, rfl⟩ := hchecked.exists_given hl
  have hlayer := Layer.rankColumns_given_ne_nil entries
  simp only [Layer.apply]
  cases hcs : (Layer.given entries).rankColumns with
  | none => exact hd
  | some cs => exact fun h => hlayer (hcs.trans (congrArg some h))

theorem Options.Reachable.rankColumns_ne_nil {o : Options} (h : o.Reachable) : o.rankColumns ≠ some [] := by
  induction h with
  | default => decide
  | named _ _ ih => exact ih
  | resolve _ hchecked ho ih => exact rankColumns_resolve ih hchecked ho

end FullText
