import FullText.Term.Scan

/-!
# The terms of a longer text

What becomes of the terms of a text when more text is written behind it.

* `Extended R as bs` — `bs` begins with `as`, except that the last member of `as` may have become another one, to which
  it is related by `R`;
* `termRuns_append`, `Term.scan_append` — that is how the runs and the terms of a text grow: all but the last stay, the
  last is the beginning of its successor, and further ones may follow.  The cut may lie anywhere.
-/

namespace FullText

open Text

/-! ## Lists that grow at the end -/

/-- `bs` is `as` with its last member grown by `R` and further members behind it. -/
inductive Extended {α : Type} (R : α → α → Prop) : List α → List α → Prop where
  | nil (bs : List α) : Extended R [] bs
  | last {a b : α} (h : R a b) (bs : List α) : Extended R [a] (b :: bs)
  | cons (a : α) {as bs : List α} (h : Extended R as bs) : Extended R (a :: as) (a :: bs)

theorem Extended.map {α β : Type} {R : α → α → Prop} {S : β → β → Prop} (f : α → β) (hf : ∀ a b, R a b → S (f a) (f b))
    {as bs : List α} (h : Extended R as bs) : Extended S (as.map f) (bs.map f) := by
  induction h with
  | nil bs => exact .nil _
  | last h bs => exact .last (hf _ _ h) _
  | cons a h ih => exact .cons (f a) ih

theorem Extended.ne_nil {α : Type} {R : α → α → Prop} {as bs : List α} (h : Extended R as bs) (ha : as ≠ []) :
    bs ≠ [] := by
  cases h with
  | nil => exact absurd rfl ha
  | last h bs => exact List.cons_ne_nil _ _
  | cons a h => exact List.cons_ne_nil _ _

/-! ## Runs -/

/-- A run that reaches the end of the text is the only one that more text can change. -/
theorem termRuns_append (cs ds : List Char) :
    Extended (fun r r' => r <+: r') (termRuns cs) (termRuns (cs ++ ds)) := by
  fun_induction termRuns cs with
  | case1 => exact .nil _
  | case2 c rest hc ih =>
    rw [List.cons_append, termRuns_cons_of_alphanumeric hc, List.takeWhile_append, List.dropWhile_append]
    by_cases hrest : rest.dropWhile isTermChar = []
    · -- the run goes on into the new text
      have hall : rest.takeWhile isTermChar = rest := by
        simpa [hrest] using List.takeWhile_append_dropWhile (p := isTermChar) (l := rest)
      rw [hall, if_pos rfl, hrest, termRuns_nil]
      exact .last (List.prefix_append (c :: rest) _) _
    · have hlen : (rest.takeWhile isTermChar).length ≠ rest.length := by
        have h1 := congrArg List.length (List.takeWhile_append_dropWhile (p := isTermChar) (l := rest))
        have h2 := List.length_pos_iff.2 hrest
        rw [List.length_append] at h1
        omega
      rw [if_neg hlen, if_neg (by simpa using hrest)]
      exact .cons _ ih
  | case3 c rest hc ih =>
    rw [List.cons_append, termRuns_cons_of_not (by simpa using hc)]
    exact ih

/-- Periods that were dropped at the end come back when the run goes on behind them. -/
theorem withoutPeriods_prefix {run longer : List Char} (h : run <+: longer) :
    withoutPeriods run <+: withoutPeriods longer := by
  obtain ⟨added, rfl⟩ := h
  unfold withoutPeriods dropEndWhile
  rw [List.reverse_append, List.dropWhile_append]
  split
  · exact List.prefix_rfl
  · rw [List.reverse_append, List.reverse_reverse]
    have hrun : (run.reverse.dropWhile (· == '.')).reverse <+: run := by
      simpa using List.reverse_prefix.2 (List.dropWhile_suffix (l := run.reverse) (· == '.'))
    exact hrun.trans (List.prefix_append _ _)

/-! ## Terms -/

/-- The text of a term begins the text of another. -/
def Term.Begins (t u : Term) : Prop := t.text.toList <+: u.text.toList

/-- The terms of a text are those of every longer text, but for the last, which may go on. -/
theorem Term.scan_append (s t : String) : Extended Term.Begins (Term.scan s) (Term.scan (s ++ t)) := by
  unfold Term.scan
  rw [String.toList_append]
  refine (termRuns_append s.toList t.toList).map _ fun r r' h => ?_
  simpa [Term.Begins] using withoutPeriods_prefix h

end FullText
