import FullText.Proofs.Plan.Compiled
import FullText.Proofs.Term.Extension
import Mathlib

/-!
# Search as you type

A search whose terms are joined by "and", with all of its terms or the last one marked, only loses documents when its
text is written on.

* `MatchLaws hits` — all that is asked of the matching of terms: a document hit by a term is hit by the marked term, and
  a document hit by a marked term is hit by everything that begins it, marked.
* `Query.Matches`, `Plan.Matches` — the documents that a query and a plan find.
* `matches_of_matches_append` — a document found for a longer text is found for its beginning.
-/

namespace FullText

universe u

/-! ## What a search finds -/

/-- The laws of a relation `hits text marked document`, "the document has the term". -/
structure MatchLaws {Doc : Type u} (hits : String → Bool → Doc → Prop) : Prop where
  /-- A document that has a word has a word that begins with it. -/
  mark : ∀ {text : String} {d : Doc}, hits text false d → hits text true d
  /-- A word that begins with a text begins with what begins the text. -/
  begins : ∀ {text longer : String} {d : Doc}, text.toList <+: longer.toList → hits longer true d → hits text true d

section
variable {Doc : Type u} (hits : String → Bool → Doc → Prop)

/-- The documents that a query finds: those that all of its terms hit, or some of them. -/
def Query.Matches (q : Query) (d : Doc) : Prop :=
  match q.operator with
  | .and => ∀ t ∈ q.terms, hits t.text t.marked d
  | .or => ∃ t ∈ q.terms, hits t.text t.marked d

/-- The documents that a plan finds; without a filter it finds all. -/
def Plan.Matches (p : Plan) (d : Doc) : Prop :=
  match p.filter with
  | none => True
  | some f => f.query.Matches hits d

/-- A document that every one of some terms hits. -/
def HitByAll (terms : List Term) (d : Doc) : Prop := ∀ t ∈ terms, hits t.text t.marked d

end

section
variable {Doc : Type u} {hits : String → Bool → Doc → Prop} {d : Doc}

theorem hitByAll_nil : HitByAll hits [] d := by simp [HitByAll]

theorem hitByAll_cons {t : Term} {rest : List Term} :
    HitByAll hits (t :: rest) d ↔ hits t.text t.marked d ∧ HitByAll hits rest d := by
  simp [HitByAll]

/-- A plan whose terms are joined by "and" finds what all of them hit, also when there are none. -/
theorem Plan.matches_iff_of_and {columns : List Value} {text : Option String} {o : Options} {p : Plan}
    (hp : Plan.ofOptions columns text o = .ok p) (ho : o.operator = .and) :
    p.Matches hits d ↔ HitByAll hits (o.termsOf (text.getD "")) d := by
  by_cases hterms : o.termsOf (text.getD "") = []
  · obtain ⟨name, -, rfl⟩ := (Plan.ofOptions_of_no_terms hterms).1 hp
    rw [hterms]
    exact ⟨fun _ => hitByAll_nil, fun _ => trivial⟩
  · obtain ⟨name, cs, -, -, -, rfl⟩ := (Plan.ofOptions_of_terms hterms).1 hp
    simp only [Plan.Matches, Plan.withTerms, Query.Matches, ho, HitByAll]

theorem Wildcard.markLast_cons_of_ne_nil {t : Term} {rest : List Term} (h : rest ≠ []) :
    markLast (t :: rest) = t :: markLast rest := by
  obtain ⟨u, more, rfl⟩ := List.exists_cons_of_ne_nil h
  rfl

/-! ## Marked terms of a longer text -/

section
variable (laws : MatchLaws hits)
include laws

theorem MatchLaws.mark_term {t : Term} (h : hits t.text t.marked d) : hits t.mark.text t.mark.marked d := by
  rw [Term.text_mark, Term.marked_mark]
  cases hm : t.marked with
  | false => exact laws.mark (hm ▸ h)
  | true => exact hm ▸ h

theorem hitByAll_mark_of_extended {ts vs : List Term} (h : Extended Term.Begins ts vs)
    (hvs : HitByAll hits (vs.map Term.mark) d) : HitByAll hits (ts.map Term.mark) d := by
  induction h with
  | nil vs => exact hitByAll_nil
  | last hb vs =>
    rw [List.map_cons, hitByAll_cons] at hvs
    rw [List.map_singleton, hitByAll_cons]
    exact ⟨laws.begins hb hvs.1, hitByAll_nil⟩
  | cons t h ih =>
    rw [List.map_cons, hitByAll_cons] at hvs ⊢
    exact ⟨hvs.1, ih hvs.2⟩

theorem hitByAll_markLast_cons {t : Term} {rest : List Term} (h : HitByAll hits (Wildcard.markLast (t :: rest)) d) :
    hits t.mark.text t.mark.marked d := by
  by_cases hrest : rest = []
  · rw [hrest, Wildcard.markLast, hitByAll_cons] at h
    exact h.1
  · rw [Wildcard.markLast_cons_of_ne_nil hrest, hitByAll_cons] at h
    exact laws.mark_term h.1

/-- A term that is the last no longer loses its mark, but what it hits unmarked it also hits marked. -/
theorem hitByAll_markLast_of_extended {ts vs : List Term} (h : Extended Term.Begins ts vs)
    (hvs : HitByAll hits (Wildcard.markLast vs) d) : HitByAll hits (Wildcard.markLast ts) d := by
  induction h with
  | nil vs => exact hitByAll_nil
  | last hb vs =>
    rw [Wildcard.markLast, hitByAll_cons]
    exact ⟨laws.begins hb (hitByAll_markLast_cons laws hvs), hitByAll_nil⟩
  | @cons t ts vs h ih =>
    by_cases hts : ts = []
    · rw [hts, Wildcard.markLast, hitByAll_cons]
      exact ⟨hitByAll_markLast_cons laws hvs, hitByAll_nil⟩
    · rw [Wildcard.markLast_cons_of_ne_nil (h.ne_nil hts), hitByAll_cons] at hvs
      rw [Wildcard.markLast_cons_of_ne_nil hts, hitByAll_cons]
      exact ⟨hvs.1, ih hvs.2⟩

theorem hitByAll_apply_of_extended {w : Wildcard} (hw : w = .all ∨ w = .last) {ts vs : List Term}
    (h : Extended Term.Begins ts vs) (hvs : HitByAll hits (w.apply vs) d) : HitByAll hits (w.apply ts) d := by
  rcases hw with rfl | rfl
  · exact hitByAll_mark_of_extended laws h hvs
  · exact hitByAll_markLast_of_extended laws h hvs

end

end

/-! ## Plans -/

/-- **A longer text finds no more.**  Where the text is cut does not matter. -/
theorem matches_of_matches_append {Doc : Type u} {hits : String → Bool → Doc → Prop} (laws : MatchLaws hits)
    {columns : List Value} {defaults o : Options} {overrides : Overrides} (ho : defaults.resolve overrides = .ok o)
    (hoperator : o.operator = .and) (hwildcard : o.wildcard = .all ∨ o.wildcard = .last) {s t : String} {p q : Plan}
    (hp : Plan.compile columns (some s) defaults overrides = .ok p)
    (hq : Plan.compile columns (some (s ++ t)) defaults overrides = .ok q) {d : Doc} (h : q.Matches hits d) :
    p.Matches hits d := by
  obtain ⟨-, o₁, ho₁, hp⟩ := Plan.compile_eq_ok.1 hp
  obtain ⟨-, o₂, ho₂, hq⟩ := Plan.compile_eq_ok.1 hq
  obtain rfl := Except.ok.inj (ho.symm.trans ho₁)
  obtain rfl := Except.ok.inj (ho.symm.trans ho₂)
  rw [Plan.matches_iff_of_and hp hoperator]
  rw [Plan.matches_iff_of_and hq hoperator] at h
  exact hitByAll_apply_of_extended laws hwildcard (Term.scan_append s t) h

/-- Documents as lists of words: a term hits its word, a marked one each word that it begins. -/
def HasWord (text : String) (marked : Bool) (words : List String) : Prop :=
  ∃ w ∈ words, if marked then text.toList <+: w.toList else text = w

instance (text : String) (marked : Bool) (words : List String) : Decidable (HasWord text marked words) :=
  inferInstanceAs (Decidable (∃ w ∈ words, if marked then text.toList <+: w.toList else text = w))

theorem matchLaws_hasWord : MatchLaws HasWord where
  mark := by
    rintro text words ⟨w, hw, rfl⟩
    exact ⟨text, hw, List.prefix_rfl⟩
  begins := by
    rintro text longer words hb ⟨w, hw, hl⟩
    exact ⟨w, hw, hb.trans hl⟩

set_option maxRecDepth 1024 in
/-- The period that ends a text comes back as part of its last term. -/
theorem matches_of_matches_append_period :
    ∃ o p q, Options.default.resolve (.entries [("wildcard", .text "last")]) = .ok o ∧ o.operator = .and ∧
      o.wildcard = .last ∧
      Plan.compile [.text "name"] (some "a st.") .default (.entries [("wildcard", .text "last")]) = .ok p ∧
      Plan.compile [.text "name"] (some ("a st." ++ "x")) .default (.entries [("wildcard", .text "last")]) = .ok q ∧
      q.Matches HasWord ["st.xy", "a"] ∧ p.Matches HasWord ["st.xy", "a"] := by
  have ho : Options.default.resolve (.entries [("wildcard", .text "last")]) = .ok { wildcard := .last } := by cbv
  have hp : Plan.compile [.text "name"] (some "a st.") .default (.entries [("wildcard", .text "last")]) =
      .ok (.withTerms { wildcard := .last } "search_by_name" ⟨[⟨"name", none⟩], "simple"⟩
        ⟨[⟨"a", false⟩, ⟨"st", true⟩], .and, "simple"⟩) := by cbv
  have hq : Plan.compile [.text "name"] (some "a st.x") .default (.entries [("wildcard", .text "last")]) =
      .ok (.withTerms { wildcard := .last } "search_by_name" ⟨[⟨"name", none⟩], "simple"⟩
        ⟨[⟨"a", false⟩, ⟨"st.x", true⟩], .and, "simple"⟩) := by cbv
  rw [show "a st.x" = "a st." ++ "x" by decide] at hq
  have hm : Plan.Matches HasWord (.withTerms { wildcard := .last } "search_by_name" ⟨[⟨"name", none⟩], "simple"⟩
      ⟨[⟨"a", false⟩, ⟨"st.x", true⟩], .and, "simple"⟩) ["st.xy", "a"] := by
    simp only [Plan.Matches, Plan.withTerms, Query.Matches]
    decide
  exact ⟨_, _, _, ho, rfl, rfl, hp, hq, hm, matches_of_matches_append matchLaws_hasWord ho rfl (.inr rfl) hp hq hm⟩

end FullText
