import FullText.Term
import FullText.Text.Alphanumeric
import FullText.Text.Blank

/-!
# Terms of a text

`Term.scan s` finds the search terms of a text, in order.  A term starts with a letter or digit and goes on through
letters, digits, apostrophes, periods and `@`; the periods at its end are punctuation and are dropped.  So
`j.doe@example.com` is one term, and `Aurora st.` gives `Aurora` and `st`.
-/

namespace FullText

open Text

/-- The signs that may stand inside a term, but not begin it. -/
def isJoiner (c : Char) : Bool := c == '\'' || c == '.' || c == '@'

/-- Whether a character may stand inside a term. -/
def isTermChar (c : Char) : Bool := isAlphanumeric c || isJoiner c

/-- The longest runs that begin with a letter or digit and hold only characters of terms. -/
def termRuns : List Char → List (List Char)
  | [] => []
  | c :: rest =>
    if isAlphanumeric c then (c :: rest.takeWhile isTermChar) :: termRuns (rest.dropWhile isTermChar)
    else termRuns rest
termination_by cs => cs.length
decreasing_by
  · have := (List.dropWhile_sublist (p := isTermChar) (l := rest)).length_le
    simp only [List.length_cons]; omega
  · simp

/-- A run without the periods at its end. -/
def withoutPeriods (run : List Char) : List Char := dropEndWhile (· == '.') run

/-- The search terms of a text, in order of appearance. -/
def Term.scan (s : String) : List Term :=
  (termRuns s.toList).map fun run => { text := String.ofList (withoutPeriods run) }

/-! ## Small facts -/

@[simp] theorem termRuns_nil : termRuns [] = [] := by simp [termRuns]

theorem termRuns_cons_of_alphanumeric {c : Char} {rest : List Char} (h : isAlphanumeric c = true) :
    termRuns (c :: rest) = (c :: rest.takeWhile isTermChar) :: termRuns (rest.dropWhile isTermChar) := by
  rw [termRuns, if_pos h]

theorem termRuns_cons_of_not {c : Char} {rest : List Char} (h : isAlphanumeric c = false) :
    termRuns (c :: rest) = termRuns rest := by
  rw [termRuns, if_neg (by simp [h])]

theorem Term.marked_of_mem_scan {s : String} {t : Term} (h : t ∈ Term.scan s) : t.marked = false := by
  simp only [scan, List.mem_map] at h
  obtain ⟨run, -, rfl⟩ := h
  rfl

end FullText
