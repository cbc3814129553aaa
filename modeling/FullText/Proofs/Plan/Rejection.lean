import FullText.Proofs.Plan.Compiled
import FullText.Proofs.Term.Alphabet
import Mathlib

/-!
# Rejected searches

What a search is rejected for, and what its text has to do with it.

* `HasTerms` — that a text has something to search for.
* `Plan.compile_eq_error_iff` — a search is rejected for lack of columns, for its options, or for a value that names no
  column; the last counts only if the columns are read, for a name or for terms.
* `Plan.error_of_compile` — these errors name an option or a value.
* `Plan.rejection_depends_on_text_iff` — so the text decides over a rejection where a search has a name of its own and a
  value that names no column, and nowhere else.
-/

namespace FullText

open Text

/-- That a text has a letter or digit; a null has none. -/
def HasTerms (text : Option String) : Prop := ∃ c ∈ (text.getD "").toList, isAlphanumeric c = true

theorem Options.termsOf_eq_nil_iff_not_hasTerms {o : Options} {text : Option String} :
    o.termsOf (text.getD "") = [] ↔ ¬ HasTerms text := by
  simp [termsOf_eq_nil_iff, HasTerms]

/-- The name that options give, if it is not empty. -/
def Options.ownName? (o : Options) : Option String := o.scopeName.filter (· ≠ "")

namespace Plan

variable {columns : List Value} {text : Option String} {o : Options} {cs : List Column} {e : Error}

/-! ## Settled options -/

theorem nameFor_of_ownName {name : String} (h : o.ownName? = some name) : o.nameFor columns = .ok name := by
  unfold Options.nameFor
  rw [show o.scopeName.filter (· ≠ "") = some name from h]

theorem nameFor_of_no_ownName (h : o.ownName? = none) : o.nameFor columns = (columnsOf columns).map scopeNameOf := by
  unfold Options.nameFor
  rw [show o.scopeName.filter (· ≠ "") = none from h]

theorem exists_nameFor (h : columnsOf columns = .ok cs) : ∃ name, o.nameFor columns = .ok name := by
  cases hown : o.ownName? with
  | none => exact ⟨scopeNameOf cs, by rw [nameFor_of_no_ownName hown, h]; rfl⟩
  | some name => exact ⟨name, nameFor_of_ownName hown⟩

theorem ofOptions_of_hasTerms {p : Plan} (h : HasTerms text) :
    ofOptions columns text o = .ok p ↔
      ∃ name cs, o.nameFor columns = .ok name ∧ columnsOf columns = .ok cs ∧ cs ≠ [] ∧
        p = withTerms o name ⟨cs, o.language⟩ ⟨o.termsOf (text.getD ""), o.operator, o.language⟩ :=
  ofOptions_of_terms fun hnil => Options.termsOf_eq_nil_iff_not_hasTerms.1 hnil h

theorem ofOptions_of_not_hasTerms {p : Plan} (h : ¬ HasTerms text) :
    ofOptions columns text o = .ok p ↔ ∃ name, o.nameFor columns = .ok name ∧ p = withoutTerms o name :=
  ofOptions_of_no_terms (Options.termsOf_eq_nil_iff_not_hasTerms.2 h)

theorem exists_ofOptions (text : Option String) (o : Options) (hne : columns ≠ []) (h : columnsOf columns = .ok cs) :
    ∃ p, ofOptions columns text o = .ok p := by
  obtain ⟨name, hname⟩ := exists_nameFor (o := o) h
  by_cases ht : HasTerms text
  · exact ⟨_, (ofOptions_of_hasTerms ht).2 ⟨name, cs, hname, h, columnsOf_ne_nil h hne, rfl⟩⟩
  · exact ⟨_, (ofOptions_of_not_hasTerms ht).2 ⟨name, hname, rfl⟩⟩

theorem ofOptions_of_no_ownName (hown : o.ownName? = none) (h : columnsOf columns = .error e) :
    ofOptions columns text o = .error e := by
  unfold ofOptions
  rw [nameFor_of_no_ownName hown, h]
  rfl

/-- With a name of its own, a search reads its columns when it has terms. -/
theorem ofOptions_of_ownName (text : Option String) {name : String} (hown : o.ownName? = some name)
    (h : columnsOf columns = .error e) :
    (HasTerms text → ofOptions columns text o = .error e) ∧
    (¬ HasTerms text → ofOptions columns text o = .ok (withoutTerms o name)) := by
  have hname : o.nameFor columns = .ok name := nameFor_of_ownName hown
  constructor
  · intro ht
    have hterms : (o.termsOf (text.getD "")).isEmpty = false := by
      rw [Bool.eq_false_iff, ne_eq, List.isEmpty_iff, Options.termsOf_eq_nil_iff_not_hasTerms]
      exact not_not_intro ht
    simp only [ofOptions, hname, Document.ofValues, h, hterms, bind, Except.bind, Bool.false_eq_true, if_false]
  · intro ht
    exact (ofOptions_of_not_hasTerms ht).2 ⟨name, hname, rfl⟩

theorem ofOptions_eq_error_iff (hne : columns ≠ []) :
    ofOptions columns text o = .error e ↔ columnsOf columns = .error e ∧ (o.ownName? = none ∨ HasTerms text) := by
  cases hcs : columnsOf columns with
  | ok cs =>
    obtain ⟨p, hp⟩ := exists_ofOptions text o hne hcs
    simp [hp]
  | error e' =>
    cases hown : o.ownName? with
    | none => simp [ofOptions_of_no_ownName hown hcs]
    | some name =>
      obtain ⟨hterms, hblank⟩ := ofOptions_of_ownName text hown hcs
      by_cases ht : HasTerms text
      · simp [hterms ht, ht]
      · simp [hblank ht, ht]

/-! ## The whole search -/

variable {defaults : Options} {overrides : Overrides}

theorem compile_of_ne_nil (hne : columns ≠ []) :
    compile columns text defaults overrides = defaults.resolve overrides >>= ofOptions columns text := by
  unfold compile
  rw [if_neg (by simpa using hne)]

theorem compile_eq_error_iff :
    compile columns text defaults overrides = .error e ↔
      (columns = [] ∧ e = .noColumns .search) ∨
      (columns ≠ [] ∧ defaults.resolve overrides = .error e) ∨
      (columns ≠ [] ∧ ∃ o, defaults.resolve overrides = .ok o ∧ columnsOf columns = .error e ∧
        (o.ownName? = none ∨ HasTerms text)) := by
  by_cases hne : columns = []
  · subst hne
    simp [compile, throw, throwThe, MonadExceptOf.throw, bind, Except.bind, eq_comm]
  · rw [compile_of_ne_nil hne]
    cases ho : defaults.resolve overrides with
    | error e' => simp [bind, Except.bind, hne]
    | ok o =>
      have hbind : (Except.ok o >>= ofOptions columns text) = ofOptions columns text o := rfl
      simp [hbind, ofOptions_eq_error_iff hne, hne]

/-! ## The errors -/

theorem toLayer_eq_error {overrides : Overrides} (h : overrides.toLayer = .error e) :
    ∃ option value reason, e = .invalidOption option value reason := by
  unfold Overrides.toLayer at h
  split at h
  · cases h
  · cases h
  · next entries =>
    unfold Layer.ofEntries at h
    cases hfaults : entryFaults true entries with
    | nil => simp [hfaults] at h
    | cons fault rest =>
      simp only [hfaults, Except.error.injEq] at h
      exact ⟨_, _, _, h.symm⟩

theorem resolve_eq_error (h : defaults.resolve overrides = .error e) :
    ∃ option value reason, e = .invalidOption option value reason := by
  unfold Options.resolve at h
  cases hl : overrides.toLayer with
  | error e' =>
    rw [hl] at h
    cases h
    exact toLayer_eq_error hl
  | ok l =>
    rw [hl] at h
    change defaults.resolveLayer l = .error e at h
    unfold Options.resolveLayer at h
    split at h
    · cases h
      exact ⟨_, _, _, rfl⟩
    · cases h

theorem toColumn_eq_error {v : Value} (h : v.toColumn = .error e) : e = .notColumn v := by
  unfold Value.toColumn at h
  split at h
  · cases h
  · split at h
    · split at h <;> cases h
      rfl
    · cases h
      rfl

theorem columnsOf_eq_error (h : columnsOf columns = .error e) : ∃ v ∈ columns, e = .notColumn v := by
  induction columns with
  | nil => cases h
  | cons v rest ih =>
    rw [columnsOf] at h
    cases hv : v.toColumn with
    | error e' =>
      rw [hv] at h
      cases h
      exact ⟨v, List.mem_cons_self, toColumn_eq_error hv⟩
    | ok c =>
      cases hrest : columnsOf rest with
      | error e' =>
        rw [hv, hrest] at h
        cases h
        obtain ⟨w, hw, he⟩ := ih hrest
        exact ⟨w, List.mem_cons_of_mem v hw, he⟩
      | ok cs =>
        rw [hv, hrest] at h
        cases h

/-- A search is rejected for want of a column, or by an error that names an option or one of the columns' values. -/
theorem error_of_compile (h : compile columns text defaults overrides = .error e) :
    e = .noColumns .search ∨ (∃ option value reason, e = .invalidOption option value reason) ∨
      ∃ v ∈ columns, e = .notColumn v := by
  rcases compile_eq_error_iff.1 h with ⟨-, he⟩ | ⟨-, ho⟩ | ⟨-, o, -, hcs, -⟩
  · exact .inl he
  · exact .inr (.inl (resolve_eq_error ho))
  · exact .inr (.inr (columnsOf_eq_error hcs))

/-! ## What the text has to do with it -/

/-- That a search has a name of its own, but among its columns a value that names none. -/
def NamedOverBadColumn (columns : List Value) (defaults : Options) (overrides : Overrides) (e : Error) : Prop :=
  ∃ o, defaults.resolve overrides = .ok o ∧ o.ownName? ≠ none ∧ columnsOf columns = .error e

theorem NamedOverBadColumn.compile_eq_error_iff (h : NamedOverBadColumn columns defaults overrides e) :
    compile columns text defaults overrides = .error e ↔ HasTerms text := by
  obtain ⟨o, ho, hown, hcs⟩ := h
  have hne : columns ≠ [] := by
    rintro rfl
    cases hcs
  rw [Plan.compile_eq_error_iff]
  simp [hne, ho, hcs, hown]

theorem hasTerms_letter : HasTerms (some "a") := ⟨'a', by decide, by decide⟩

theorem not_hasTerms_null : ¬ HasTerms none := by simp [HasTerms]

/-- **What the text has to do with a rejection.**  A search is rejected alike for all texts, unless it has a name of its
own and a value that names no column; then it is rejected for the texts that have terms. -/
theorem rejection_depends_on_text_iff (columns : List Value) (defaults : Options) (overrides : Overrides) :
    ((∃ s t e, compile columns s defaults overrides = .error e ∧ compile columns t defaults overrides ≠ .error e) ↔
      ∃ e, NamedOverBadColumn columns defaults overrides e) ∧
    (∀ e, NamedOverBadColumn columns defaults overrides e →
      ∀ text, compile columns text defaults overrides = .error e ↔ HasTerms text) := by
  refine ⟨⟨?_, ?_⟩, fun e h text => h.compile_eq_error_iff⟩
  · rintro ⟨s, t, e, hs, ht⟩
    rcases compile_eq_error_iff.1 hs with hnone | hoptions | ⟨hne, o, ho, hcs, hread⟩
    · exact absurd (compile_eq_error_iff.2 (.inl hnone)) ht
    · exact absurd (compile_eq_error_iff.2 (.inr (.inl hoptions))) ht
    · refine ⟨e, o, ho, fun hown => ?_, hcs⟩
      exact ht (compile_eq_error_iff.2 (.inr (.inr ⟨hne, o, ho, hcs, .inl hown⟩)))
  · -- a letter is refused, a null is not
    rintro ⟨e, h⟩
    refine ⟨some "a", none, e, h.compile_eq_error_iff.2 hasTerms_letter, ?_⟩
    rw [ne_eq, h.compile_eq_error_iff]
    exact not_hasTerms_null

/-- A blank column under a given name: refused for a word, let through for no text. -/
theorem not_rejected_alike_blank_column :
    ¬ ∀ (columns : List Value) (defaults : Options) (overrides : Overrides) (s t : Option String) (e : Error),
      compile columns s defaults overrides = .error e ↔ compile columns t defaults overrides = .error e := by
  intro h
  have hbad : NamedOverBadColumn [.text ""] .default (.entries [("as", .text "named")]) (.notColumn (.text "")) :=
    ⟨{ scopeName := some "named" }, by cbv, by decide, by cbv⟩
  have hword := hbad.compile_eq_error_iff.2 hasTerms_letter
  have hblank := hbad.compile_eq_error_iff.1 ((h _ _ _ (some "a") (some "") _).1 hword)
  exact absurd hblank (by simp [HasTerms])

end Plan

end FullText
