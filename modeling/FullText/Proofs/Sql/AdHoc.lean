import FullText.Proofs.Sql.Filters

/-!
# Plans over ad-hoc tables

A table that is made for a compiled plan has all columns that the plan reads.

* `Source.offers_ofColumns` — a table made of columns offers them.
* `Plan.readableFrom_ofColumns` — the documents of a plan can be read from a table made of the searched columns and of
  those that it scores by.
* `Plan.exists_sqlOver` — so the plan has its SQL over that table.
-/

namespace FullText

open Sql

theorem Sql.Source.offers_ofColumns {columns : List Column} {c : Column} (h : c ∈ columns) (name : String) :
    (Source.table (Table.ofColumns name columns)).Offers c := by
  have hname : c.name ∈ (columns.map Column.name).eraseDups := List.mem_eraseDups.2 (List.mem_map_of_mem h)
  unfold Offers column?
  rw [List.find?_isSome]
  refine ⟨{ name := c.name }, ?_, by simp⟩
  exact List.mem_map_of_mem hname

namespace Plan

variable {columns : List Column} {text : Option String} {defaults : Options} {overrides : Overrides} {p : Plan}

theorem rankedColumns_of_ranking {r : Ranking} (hr : p.ranking = some r) : p.rankedColumns = r.document.columns := by
  simp [rankedColumns, hr]

/-- The documents of a compiled plan: the columns searched, and those that it scores by. -/
theorem columns_of_compile (hp : compile (columns.map Value.column) text defaults overrides = .ok p) :
    (∀ f, p.filter = some f → f.document.columns = columns ∧ columns ≠ []) ∧
      ∀ r, p.ranking = some r → r.document.columns ≠ [] := by
  obtain ⟨-, o, -, hplan⟩ := compile_eq_ok.1 hp
  by_cases h : HasTerms text
  · obtain ⟨name, cs, -, hcs, hne, rfl⟩ := (ofOptions_of_hasTerms h).1 hplan
    obtain rfl := Except.ok.inj ((columnsOf_columns columns).symm.trans hcs)
    refine ⟨?_, ?_⟩
    · rintro f ⟨⟩
      exact ⟨rfl, hne⟩
    · rintro r ⟨⟩
      exact rankDocument_columns_ne_nil hne
  · obtain ⟨name, -, rfl⟩ := (ofOptions_of_not_hasTerms h).1 hplan
    exact ⟨nofun, nofun⟩

theorem readableFrom_ofColumns (hp : compile (columns.map Value.column) text defaults overrides = .ok p)
    (name : String) : p.ReadableFrom (.table (Table.ofColumns name (columns ++ p.rankedColumns))) := by
  obtain ⟨hfilter, hranking⟩ := columns_of_compile hp
  constructor
  · intro f hf
    obtain ⟨hcolumns, hne⟩ := hfilter f hf
    refine ⟨by rwa [hcolumns], fun c hc => Source.offers_ofColumns ?_ name⟩
    rw [hcolumns] at hc
    exact List.mem_append_left _ hc
  · intro r hr
    refine ⟨hranking r hr, fun c hc => Source.offers_ofColumns ?_ name⟩
    rw [rankedColumns_of_ranking hr]
    exact List.mem_append_right _ hc

theorem exists_sqlOver (hp : compile (columns.map Value.column) text defaults overrides = .ok p) (name : String) :
    ∃ sql, p.sqlOver name (columns ++ p.rankedColumns) = .ok sql := by
  have hread := readableFrom_ofColumns hp name
  obtain ⟨s, hs⟩ := (Statement.exists_search_iff (.ofSource _)).2 (.inr (.inr hread))
  exact ⟨_, bind_eq_ok.2 ⟨s, hs, rfl⟩⟩

end Plan

end FullText
