import FullText.Proofs.Sql.AdHoc
import FullText.Proofs.Sql.Additions
import FullText.Proofs.Sql.DocumentText
import Mathlib.Data.List.Induction

/-!
# What is selected from an ad-hoc table

A table that is made for a plan has one column for each name that the plan mentions, whatever tables the columns were
said to be of.

* `FirstAppearances` — that a list has the members of another one in the order of their first appearance there, each
  once; `firstAppearances_eraseDups` says that erasing duplicates leaves them.
* `Sql.outputParts_of_nodup` — columns that are all different are printed as if each stood alone.
* `Plan.statement_selects` — the statement of a plan over its table: one column for each name, the score or a zero if
  that is wanted, and vectors over all columns of the search.
-/

namespace FullText

open Text Sql

/-! ## First appearances -/

section
variable {α : Type} [DecidableEq α] {names all xs ys : List α}

/-- That names are those of a list, in the order of their first appearance.  The order is strict, so none is there
twice. -/
structure FirstAppearances (names all : List α) : Prop where
  mem_iff : ∀ n, n ∈ names ↔ n ∈ all
  inOrder : names.Pairwise fun m n => all.idxOf m < all.idxOf n

theorem FirstAppearances.nodup (h : FirstAppearances names all) : names.Nodup :=
  h.inOrder.imp fun hlt heq => absurd (heq ▸ hlt) (Nat.lt_irrefl _)

theorem eraseDups_append_singleton (xs : List α) (x : α) :
    (xs ++ [x]).eraseDups = xs.eraseDups ++ if x ∈ xs then [] else [x] := by
  rw [List.eraseDups_append]
  by_cases hx : x ∈ xs <;> simp [List.removeAll, List.eraseDups_cons, hx]

theorem eraseDups_append_of_subset (h : ∀ y ∈ ys, y ∈ xs) : (xs ++ ys).eraseDups = xs.eraseDups := by
  have hnone : ys.removeAll xs = [] := by simpa [List.removeAll] using h
  rw [List.eraseDups_append, hnone, List.eraseDups_nil, List.append_nil]

/-- By induction from the end: a further element comes last, or is there already. -/
theorem firstAppearances_eraseDups (xs : List α) : FirstAppearances xs.eraseDups xs := by
  refine ⟨fun n => List.mem_eraseDups, ?_⟩
  induction xs using List.reverseRecOn with
  | nil => simp
  | append_singleton xs x ih =>
    have hold : xs.eraseDups.Pairwise fun m n => (xs ++ [x]).idxOf m < (xs ++ [x]).idxOf n := by
      refine ih.imp_of_mem fun hm hn hlt => ?_
      rwa [List.idxOf_append_of_mem (List.mem_eraseDups.1 hm), List.idxOf_append_of_mem (List.mem_eraseDups.1 hn)]
    rw [eraseDups_append_singleton]
    by_cases hx : x ∈ xs
    · rwa [if_pos hx, List.append_nil]
    · rw [if_neg hx, List.pairwise_append]
      refine ⟨hold, List.pairwise_singleton _ _, fun m hm n hn => ?_⟩
      rw [List.mem_singleton] at hn
      have hmem : m ∈ xs := List.mem_eraseDups.1 hm
      rw [hn, List.idxOf_append_of_mem hmem, List.idxOf_append_of_notMem hx]
      have hlt : xs.idxOf m < xs.length := List.idxOf_lt_length_of_mem hmem
      omega

/-- Nothing else has a list's members in the order of their first appearance. -/
theorem FirstAppearances.eq_eraseDups (h : FirstAppearances names all) : names = all.eraseDups := by
  have herased := firstAppearances_eraseDups all
  have hperm : names.Perm all.eraseDups := by
    refine (List.perm_ext_iff_of_nodup h.nodup herased.nodup).2 fun n => ?_
    rw [h.mem_iff, herased.mem_iff]
  exact hperm.eq_of_pairwise (fun m n _ _ hmn hnm => absurd hnm (Nat.lt_asymm hmn)) h.inOrder herased.inOrder

end

/-! ## Columns of the result -/

namespace Sql

/-- A column of a table by its name. -/
def Output.ofName (tableName name : String) : Output := { expr := .column [tableName] name }

theorem Output.ofName_injective (tableName : String) : Function.Injective (ofName tableName) := by
  intro m n h
  exact (Expr.column.inj (Output.mk.inj h).1).2

/-- Columns that are all different are printed as if each stood alone. -/
theorem outputParts_of_nodup {earlier outputs : List Output} (h : (earlier ++ outputs).Nodup) :
    outputParts earlier outputs = outputs.map (Output.fragments []) := by
  induction outputs generalizing earlier with
  | nil => rfl
  | cons o rest ih =>
    have hnew : o ∉ earlier := fun hmem => (List.nodup_append.1 h).2.2 o hmem o List.mem_cons_self rfl
    have hpart : o.fragments earlier = o.fragments [] := by
      unfold Output.fragments
      cases o.label with
      | some label => rfl
      | none =>
        cases o.expr.columnName? with
        | none => rfl
        | some name => simp [hnew]
    rw [outputParts, hpart, ih (by simpa using h), List.map_cons]

/-- A table made of columns shows each of their names once. -/
theorem Statement.outputs_ofColumns (tableName : String) (columns : List Column) :
    (ofSource (.table (Table.ofColumns tableName columns))).outputs =
      (columns.map Column.name).eraseDups.map (Output.ofName tableName) := by
  simp only [ofSource, Source.columns, Table.ofColumns, Table.ofNames, List.map_map]
  rfl

end Sql

namespace Plan

variable {columns : List Column} {text : Option String} {defaults o : Options} {overrides : Overrides} {p : Plan}

/-- Scoring by the searched columns mentions no further name. -/
theorem eraseDups_rankDocument (columns : List Column) (o : Options) (language : String) :
    ((columns ++ (o.rankDocument ⟨columns, language⟩).columns).map Column.name).eraseDups =
      ((columns ++ o.rankColumns.getD []).map Column.name).eraseDups := by
  have hsame : ((columns ++ columns).map Column.name).eraseDups = (columns.map Column.name).eraseDups := by
    rw [List.map_append, eraseDups_append_of_subset fun _ h => h]
  unfold Options.rankDocument
  rcases o.rankColumns with _ | _ | ⟨c, rest⟩
  · simpa using hsame
  · simpa using hsame
  · rfl

theorem nodup_shown {names : List String} (hnames : names.Nodup) {score : Expr} (hscore : score.columnName? = none)
    (tableName : String) : (names.map (Output.ofName tableName) ++ Search.shown o p score).Nodup := by
  have hcolumns : (names.map (Output.ofName tableName)).Nodup := hnames.map (Output.ofName_injective tableName)
  unfold Search.shown
  split
  · refine List.nodup_append.2 ⟨hcolumns, List.nodup_singleton _, ?_⟩
    rintro a ha b hb rfl
    obtain ⟨n, -, rfl⟩ := List.mem_map.1 ha
    obtain rfl := (Output.mk.inj (List.mem_singleton.1 hb)).1
    cases hscore
  · rwa [List.append_nil]

/-- What a plan of a search with terms is made of. -/
theorem parts_of_hasTerms (h : HasTerms text) (hp : ofOptions (columns.map .column) text o = .ok p) :
    ∃ f r, p.filter = some f ∧ f.document = ⟨columns, o.language⟩ ∧ p.ranking = some r ∧
      r.function = o.rankFunction ∧ r.document = o.rankDocument ⟨columns, o.language⟩ ∧
      ∀ score, Statement.rankOutputs p score = Search.shown o p score := by
  obtain ⟨name, cs, -, hcs, -, rfl⟩ := (ofOptions_of_hasTerms h).1 hp
  obtain rfl := Except.ok.inj ((columnsOf_columns columns).symm.trans hcs)
  exact ⟨_, _, rfl, rfl, rfl, rfl, rfl, rankOutputs_withTerms o name _ _⟩

theorem parts_of_not_hasTerms (h : ¬ HasTerms text) (hp : ofOptions (columns.map .column) text o = .ok p) :
    p.filter = none ∧ p.rankedColumns = [] ∧ Statement.zeroOutputs p = Search.shown o p .zero := by
  obtain ⟨name, -, rfl⟩ := (ofOptions_of_not_hasTerms h).1 hp
  exact ⟨rfl, rfl, zeroOutputs_withoutTerms o name⟩

/-- Over a source that offers the columns, the statement of a plan has a vector for either document. -/
theorem exists_statement_of_parts {source : Source} {f : Filter} {r : Ranking} (hf : p.filter = some f)
    (hr : p.ranking = some r) (hread : p.ReadableFrom source) :
    ∃ s found scored query query' normalization, p.statement source = .ok s ∧
      found.IsVectorOf source f.document.columns ∧ scored.IsVectorOf source r.document.columns ∧
      s.conjuncts = [.hits found query] ∧ s.outputs = (Statement.ofSource source).outputs ++
        Statement.rankOutputs p (.rank r.function scored query' normalization) := by
  obtain ⟨hranked, hoffersRanked⟩ := hread.ranking r hr
  obtain ⟨hsearched, hoffersSearched⟩ := hread.filter f hf
  obtain ⟨scored, hscored, hscoredReads⟩ := r.document.exists_isVectorOf hranked hoffersRanked 0
  obtain ⟨found, hfound, hfoundReads⟩ := f.document.exists_isVectorOf hsearched hoffersSearched 1
  have hs := (Statement.search_eq_ok (s := .ofSource source) hf hr).2
    ⟨_, _, bind_eq_ok.2 ⟨scored, hscored, rfl⟩, bind_eq_ok.2 ⟨found, hfound, rfl⟩, rfl⟩
  exact ⟨_, found, scored, _, _, _, hs, hfoundReads, hscoredReads, rfl, rfl⟩

/-- **An ad-hoc table has what its SQL needs, and selects no name twice.**  The SQL of a compiled plan can always be
written over it.  The statement shows each name once, in the order of first appearance among the columns searched and,
with terms, those to rank by; then the score or a zero, just when that is wanted.  Its vectors are over all columns, so
that two which only their tables tell apart are one column of the table but each has its place in the document. -/
theorem statement_selects (hp : compile (columns.map .column) text defaults overrides = .ok p)
    (ho : defaults.resolve overrides = .ok o) (tableName : String) :
    let source : Source := .table (Table.ofColumns tableName (columns ++ p.rankedColumns))
    ∃ s names score, p.statement source = .ok s ∧
      p.sqlOver tableName (columns ++ p.rankedColumns) = .ok (inlined s.fragments) ∧
      s.outputs = names.map (Output.ofName tableName) ++ Search.shown o p score ∧
      -- none is printed under another label for coming again
      outputParts [] s.outputs = s.outputs.map (Output.fragments []) ∧
      (HasTerms text →
        FirstAppearances names ((columns ++ o.rankColumns.getD []).map Column.name) ∧
        ∃ found scored query query' normalization, found.IsVectorOf source columns ∧
          scored.IsVectorOf source p.rankedColumns ∧ s.conjuncts = [.hits found query] ∧
          score = .rank o.rankFunction scored query' normalization) ∧
      (¬ HasTerms text →
        FirstAppearances names (columns.map Column.name) ∧ s.conjuncts = [] ∧ score = .zero) := by
  intro source
  have hplan := ofOptions_of_compile ho hp
  have hcolumns := Statement.outputs_ofColumns tableName (columns ++ p.rankedColumns)
  have hnames := firstAppearances_eraseDups ((columns ++ p.rankedColumns).map Column.name)
  by_cases h : HasTerms text
  · obtain ⟨f, r, hf, hdocument, hr, hfunction, hranked, hshown⟩ := parts_of_hasTerms h hplan
    obtain ⟨s, found, scored, query, query', normalization, hs, hfound, hscored, hconjuncts, houtputs⟩ :=
      exists_statement_of_parts hf hr (readableFrom_ofColumns hp tableName)
    rw [hcolumns, hshown] at houtputs
    refine ⟨s, _, _, hs, bind_eq_ok.2 ⟨s, hs, rfl⟩, houtputs, ?_, fun _ => ⟨?_, ?_⟩, fun hnot => absurd h hnot⟩
    · rw [houtputs]
      exact outputParts_of_nodup (nodup_shown hnames.nodup rfl tableName)
    · rw [rankedColumns_of_ranking hr, hranked, eraseDups_rankDocument]
      exact firstAppearances_eraseDups _
    · rw [hdocument] at hfound
      rw [rankedColumns_of_ranking hr, ← hfunction]
      exact ⟨found, scored, query, query', normalization, hfound, hscored, hconjuncts, rfl⟩
  · obtain ⟨hf, hranked, hshown⟩ := parts_of_not_hasTerms h hplan
    have hs : p.statement source = _ := Statement.search_of_filter_none (.ofSource source) source hf
    rw [hcolumns, hshown] at hs
    refine ⟨_, _, _, hs, bind_eq_ok.2 ⟨_, hs, rfl⟩, rfl, ?_, fun hterms => absurd hterms h, fun _ => ⟨?_, rfl, rfl⟩⟩
    · exact outputParts_of_nodup (nodup_shown hnames.nodup rfl tableName)
    · rw [hranked, List.append_nil]
      exact firstAppearances_eraseDups _

/-- Two columns that only their tables tell apart, a third one, and scores by that and a fourth. -/
theorem statement_selects_four :
    let columns : List Column := [⟨"x", some "a"⟩, ⟨"x", some "b"⟩, ⟨"y", none⟩]
    let overrides : Overrides :=
      .layer { selectRank := some (some true), rankColumns := some (some [⟨"y", none⟩, ⟨"z", none⟩]) }
    ∃ p s, compile (columns.map .column) (some "cat") .default overrides = .ok p ∧
      p.statement (.table (Table.ofColumns "t" (columns ++ p.rankedColumns))) = .ok s ∧
      s.outputs.map Output.name? = [some "x", some "y", some "z", some "search_by_x_and_x_and_y_rank"] ∧
      ∃ found query, s.conjuncts = [.hits found query] ∧
        found.IsVectorOf (.table (Table.ofColumns "t" (columns ++ p.rankedColumns))) columns := by
  intro columns overrides
  let o : Options := { selectRank := true, rankColumns := some [⟨"y", none⟩, ⟨"z", none⟩] }
  let d : Document := ⟨columns, "simple"⟩
  let p : Plan := .withTerms o "search_by_x_and_x_and_y" d ⟨o.termsOf "cat", .and, "simple"⟩
  have ho : Options.default.resolve overrides = .ok o := rfl
  have hterms : HasTerms (some "cat") := ⟨'c', by decide, by decide⟩
  have hp : compile (columns.map .column) (some "cat") .default overrides = .ok p := by
    refine compile_eq_ok.2 ⟨by decide, o, ho, (ofOptions_of_hasTerms hterms).2 ?_⟩
    exact ⟨_, columns, by cbv, columnsOf_columns columns, by decide, rfl⟩
  obtain ⟨s, names, score, hs, -, houtputs, -, hselected, -⟩ := statement_selects hp ho "t"
  obtain ⟨hnames, found, -, query, -, -, hfound, -, hconjuncts, -⟩ := hselected hterms
  obtain rfl : names = ["x", "y", "z"] := hnames.eq_eraseDups.trans (by decide)
  refine ⟨p, s, hp, hs, ?_, found, query, hconjuncts, hfound⟩
  rw [houtputs]
  rfl

end Plan

end FullText
