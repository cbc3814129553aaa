import FullText.Wildcard
import Mathlib.Data.List.Forall2
import Mathlib.Data.Nat.Basic
import Mathlib.Order.MinMax

/-!
# The chain of policies

The policies are ordered by how much they mark.  What a policy does can be said place by place, and from this it follows
that policies applied one after another come to the largest of them.

* `Wildcard.marksAt` — which places of a list of terms a policy marks; `Wildcard.apply_eq_mapIdx` says that it marks
  these and leaves everything else.
* `Wildcard.marksAt_of_le`, `Wildcard.marksAt_max` — a larger policy marks the places of a smaller one, and the larger
  of two policies the places of both.
* `Wildcard.apply_apply` — two policies one after the other; `Wildcard.applyAll_eq_apply_largest` — any number of them.
* `Wildcard.applyAll_acts_as_largest` — order and repetition do not matter, and no text and no mark is lost.
-/

namespace FullText

/-! ## Terms kept by others -/

/-- That a term keeps its text in another one, and its mark if it has one. -/
structure Term.KeptBy (t u : Term) : Prop where
  text_eq : u.text = t.text
  marked_of_marked : t.marked = true → u.marked = true

theorem forall₂_mapIdx {α β γ : Type} {R : β → γ → Prop} {f : Nat → α → β} {g : Nat → α → γ}
    (h : ∀ i a, R (f i a) (g i a)) (xs : List α) : List.Forall₂ R (xs.mapIdx f) (xs.mapIdx g) := by
  induction xs generalizing f g with
  | nil => exact .nil
  | cons a rest ih =>
    rw [List.mapIdx_cons, List.mapIdx_cons]
    exact .cons (h 0 a) (ih fun i b => h (i + 1) b)

namespace Wildcard

/-! ## Marks by place -/

/-- Whether a policy marks the term at a place among so many. -/
def marksAt (w : Wildcard) (count index : Nat) : Bool :=
  match w with
  | .none => false
  | .last => index + 1 == count
  | .all => true

theorem markLast_eq_mapIdx (terms : List Term) :
    markLast terms = terms.mapIdx fun i t => { t with marked := t.marked || (i + 1 == terms.length) } := by
  fun_induction markLast terms with
  | case1 => rfl
  | case2 t => simp [Term.mark]
  | case3 t rest hne ih =>
    have hlen : (rest.length == 0) = false := by simpa using hne
    rw [List.mapIdx_cons, ih]
    simp [hlen]

theorem apply_eq_mapIdx (w : Wildcard) (terms : List Term) :
    w.apply terms = terms.mapIdx fun i t => { t with marked := t.marked || w.marksAt terms.length i } := by
  cases w with
  | none => exact List.ext_getElem (by simp [apply]) (by simp [apply, marksAt])
  | last => exact markLast_eq_mapIdx terms
  | all => exact List.ext_getElem (by simp [apply]) (by simp [apply, marksAt, Term.mark])

/-! ## The order -/

theorem level_injective : Function.Injective level := by
  intro p q h
  cases p <;> cases q <;> simp_all [level]

/-- Policies are compared by how much they mark. -/
instance : LinearOrder Wildcard := LinearOrder.lift' level level_injective

theorem none_le (w : Wildcard) : Wildcard.none ≤ w := Nat.zero_le w.level

/-- A larger policy marks every place that a smaller one marks. -/
theorem marksAt_of_le {p q : Wildcard} (h : p ≤ q) {count index : Nat} (hp : p.marksAt count index = true) :
    q.marksAt count index = true := by
  cases q with
  | all => rfl
  | last =>
    cases p with
    | none => cases hp
    | last => exact hp
    | all => exact absurd h (by decide)
  | none =>
    cases p with
    | none => exact hp
    | last => exact absurd h (by decide)
    | all => exact absurd h (by decide)

theorem marksAt_max (p q : Wildcard) (count index : Nat) :
    (max p q).marksAt count index = (p.marksAt count index || q.marksAt count index) := by
  rcases le_total p q with h | h
  · rw [max_eq_right h, Bool.eq_iff_iff, Bool.or_eq_true]
    exact ⟨Or.inr, fun hmarks => hmarks.elim (marksAt_of_le h) id⟩
  · rw [max_eq_left h, Bool.eq_iff_iff, Bool.or_eq_true]
    exact ⟨Or.inl, fun hmarks => hmarks.elim id (marksAt_of_le h)⟩

/-! ## One policy after another -/

/-- The number of the terms, by which a policy finds its places, is the same for both. -/
theorem apply_apply (p q : Wildcard) (terms : List Term) : p.apply (q.apply terms) = (max p q).apply terms := by
  rw [apply_eq_mapIdx q terms, apply_eq_mapIdx p, List.length_mapIdx, List.mapIdx_mapIdx, apply_eq_mapIdx (max p q)]
  congr 1
  funext i t
  simp only [Function.comp_apply, marksAt_max, Term.mk.injEq, true_and]
  rw [Bool.or_assoc, Bool.or_comm (q.marksAt _ _)]

/-- The terms after some policies, the first one first. -/
def applyAll (policies : List Wildcard) (terms : List Term) : List Term :=
  policies.foldl (fun ts w => w.apply ts) terms

/-- The largest of some policies; of none, the one that marks nothing. -/
def largest (policies : List Wildcard) : Wildcard := policies.foldr max .none

theorem largest_le_iff {policies : List Wildcard} {w : Wildcard} : largest policies ≤ w ↔ ∀ p ∈ policies, p ≤ w := by
  induction policies with
  | nil => simp [largest, none_le]
  | cons p rest ih =>
    have hcons : largest (p :: rest) = max p (largest rest) := rfl
    rw [hcons, max_le_iff, ih, List.forall_mem_cons]

theorem largest_eq {policies : List Wildcard} {w : Wildcard} (hw : w ∈ policies) (h : ∀ p ∈ policies, p ≤ w) :
    largest policies = w :=
  le_antisymm (largest_le_iff.2 h) (largest_le_iff.1 le_rfl w hw)

theorem largest_congr {policies policies' : List Wildcard} (h : ∀ w, w ∈ policies ↔ w ∈ policies') :
    largest policies = largest policies' := by
  refine eq_of_forall_ge_iff fun w => ?_
  rw [largest_le_iff, largest_le_iff]
  exact forall_congr' fun p => imp_congr_left (h p)

theorem applyAll_eq_apply_largest (policies : List Wildcard) (terms : List Term) :
    applyAll policies terms = (largest policies).apply terms := by
  induction policies generalizing terms with
  | nil => rfl
  | cons p rest ih =>
    calc applyAll (p :: rest) terms
      _ = applyAll rest (p.apply terms) := rfl
      _ = (largest rest).apply (p.apply terms) := ih (p.apply terms)
      _ = (max (largest rest) p).apply terms := apply_apply (largest rest) p terms
      _ = (largest (p :: rest)).apply terms := by rw [max_comm]; rfl

/-! ## What is kept -/

theorem keptBy_apply_of_le {p q : Wildcard} (h : p ≤ q) (terms : List Term) :
    List.Forall₂ Term.KeptBy (p.apply terms) (q.apply terms) := by
  rw [apply_eq_mapIdx p, apply_eq_mapIdx q]
  refine forall₂_mapIdx (fun i t => ⟨rfl, fun hmarked => ?_⟩) terms
  rw [Bool.or_eq_true] at hmarked ⊢
  exact hmarked.imp_right (marksAt_of_le h)

theorem keptBy_applyAll (policies : List Wildcard) (terms : List Term) :
    List.Forall₂ Term.KeptBy terms (applyAll policies terms) := by
  rw [applyAll_eq_apply_largest]
  exact keptBy_apply_of_le (none_le (largest policies)) terms

/-- **Policies form a chain**: one after another, in any order and however often, they act as the largest of them.  They
keep all terms with their texts and marks, and a larger policy marks every term that a smaller one marks. -/
theorem applyAll_acts_as_largest (terms : List Term) :
    (Wildcard.none < last ∧ last < all) ∧
    (∀ w : Wildcard,
      w.apply terms = terms.mapIdx fun i t => { t with marked := t.marked || w.marksAt terms.length i }) ∧
    (∀ p q : Wildcard, p.apply (q.apply terms) = (max p q).apply terms) ∧
    (∀ policies, ∀ w ∈ policies, (∀ p ∈ policies, p ≤ w) → applyAll policies terms = w.apply terms) ∧
    (∀ policies policies', (∀ w, w ∈ policies ↔ w ∈ policies') →
      applyAll policies terms = applyAll policies' terms) ∧
    (∀ policies, List.Forall₂ Term.KeptBy terms (applyAll policies terms)) ∧
    ∀ p q : Wildcard, p ≤ q → List.Forall₂ Term.KeptBy (p.apply terms) (q.apply terms) := by
  refine ⟨by decide, fun w => apply_eq_mapIdx w terms, fun p q => apply_apply p q terms, fun policies w hw hmax => ?_,
    fun policies policies' h => ?_, fun policies => keptBy_applyAll policies terms,
    fun p q h => keptBy_apply_of_le h terms⟩
  · rw [applyAll_eq_apply_largest, largest_eq hw hmax]
  · rw [applyAll_eq_apply_largest, applyAll_eq_apply_largest, largest_congr h]

/-- The last term is marked once, and the mark of the first one stays. -/
theorem applyAll_acts_as_largest_last_twice :
    let terms : List Term := [⟨"Ivan", true⟩, ⟨"Aurora", false⟩, ⟨"st", false⟩]
    let marked : List Term := [⟨"Ivan", true⟩, ⟨"Aurora", false⟩, ⟨"st", true⟩]
    applyAll [.last, .none, .last] terms = marked ∧ applyAll [.none, .last] terms = marked ∧
      List.Forall₂ Term.KeptBy marked (all.apply terms) := by
  intro terms marked
  obtain ⟨-, -, -, hlargest, hsame, -, hmore⟩ := applyAll_acts_as_largest terms
  have htwice : applyAll [.last, .none, .last] terms = marked := hlargest _ last (by decide) (by decide)
  have honce : applyAll [.last, .none, .last] terms = applyAll [.none, .last] terms :=
    hsame _ _ fun w => by cases w <;> decide
  exact ⟨htwice, honce.symm.trans htwice, hmore last all (by decide)⟩

end Wildcard

end FullText
