import FullText.Term.Scan
import Mathlib.Data.List.DropRight

/-!
# Terms as trimmed pieces

The scan for terms, said without a scan: cut the text at every character that no term has, trim the pieces, and forget
the empty ones.

* `pieces`, `trimmedPiece`, `trimmedPieces` — cutting and trimming.
* `trimmedPieces_append` — no term goes on over a character that no term has.
* `map_termRuns` — the runs of a text without the periods at their ends are its trimmed pieces.
* `flatMap_alphanumeric_termRuns` — the runs hold every letter and digit of the text, once and in order.
* `Term.scan_eq_trimmedPieces` — both, for the terms of a text.
-/

namespace FullText

open Text

/-! ## Cutting and trimming -/

/-- The parts of a text between the characters that no term has. -/
def pieces (cs : List Char) : List (List Char) := cs.splitOnP fun c => !isTermChar c

/-- A piece without the joiners at its beginning, and then without the periods at its end. -/
def trimmedPiece (piece : List Char) : List Char := (piece.dropWhile isJoiner).rdropWhile (· == '.')

/-- The trimmed pieces of a text that are not empty. -/
def trimmedPieces (cs : List Char) : List (List Char) := ((pieces cs).map trimmedPiece).filter (· ≠ [])

theorem isAlphanumeric_of_isJoiner {c : Char} (h : isJoiner c = true) : isAlphanumeric c = false := by
  have hc : (c = '\'' ∨ c = '.') ∨ c = '@' := by simpa [isJoiner] using h
  rcases hc with (rfl | rfl) | rfl <;> decide

theorem isTermChar_of_isAlphanumeric {c : Char} (h : isAlphanumeric c = true) : isTermChar c = true := by
  rw [isTermChar, h, Bool.true_or]

theorem isTermChar_of_isJoiner {c : Char} (h : isJoiner c = true) : isTermChar c = true := by
  rw [isTermChar, h, Bool.or_true]

theorem withoutPeriods_eq_rdropWhile (run : List Char) : withoutPeriods run = run.rdropWhile (· == '.') := rfl

theorem trimmedPiece_of_isAlphanumeric {c : Char} (hc : isAlphanumeric c = true) (rest : List Char) :
    trimmedPiece (c :: rest) = withoutPeriods (c :: rest) := by
  have hj : isJoiner c = false := by
    cases h : isJoiner c with
    | false => rfl
    | true => rw [isAlphanumeric_of_isJoiner h] at hc; cases hc
  rw [trimmedPiece, List.dropWhile_cons_of_neg (by simp [hj]), withoutPeriods_eq_rdropWhile]

theorem trimmedPiece_of_isJoiner {c : Char} (hc : isJoiner c = true) (rest : List Char) :
    trimmedPiece (c :: rest) = trimmedPiece rest := by
  rw [trimmedPiece, List.dropWhile_cons_of_pos hc, trimmedPiece]

/-- The periods at the end of a run do not reach its first letter or digit. -/
theorem withoutPeriods_cons {c : Char} (hc : isAlphanumeric c = true) (rest : List Char) :
    ∃ kept, withoutPeriods (c :: rest) = c :: kept := by
  have hp : (c == '.') = false := by
    rw [beq_eq_false_iff_ne]
    rintro rfl
    revert hc
    decide
  have hne : withoutPeriods (c :: rest) ≠ [] := by
    intro h
    rw [withoutPeriods_eq_rdropWhile, List.rdropWhile_eq_nil_iff] at h
    have := h c List.mem_cons_self
    simp [hp] at this
  obtain ⟨d, kept, hd⟩ := List.exists_cons_of_ne_nil hne
  have hprefix : d :: kept <+: c :: rest := by
    rw [← hd, withoutPeriods_eq_rdropWhile]
    exact List.rdropWhile_prefix _ _
  obtain ⟨rfl, -⟩ := List.cons_prefix_cons.1 hprefix
  exact ⟨kept, hd⟩

/-! ## Where a text can be cut -/

theorem trimmedPieces_nil : trimmedPieces [] = [] := by
  simp [trimmedPieces, pieces, trimmedPiece, List.rdropWhile]

theorem trimmedPieces_append_cons {c : Char} (hc : isTermChar c = false) (before after : List Char) :
    trimmedPieces (before ++ c :: after) = trimmedPieces before ++ trimmedPieces after := by
  rw [trimmedPieces, pieces, List.splitOnP_append_cons before after (by simp [hc]), List.map_append,
    List.filter_append]
  rfl

theorem trimmedPieces_cons_of_not_isTermChar {c : Char} (hc : isTermChar c = false) (rest : List Char) :
    trimmedPieces (c :: rest) = trimmedPieces rest := by
  simpa [trimmedPieces_nil] using trimmedPieces_append_cons hc [] rest

/-- No term goes on over a character that no term has. -/
theorem trimmedPieces_append {before after : List Char} (h : ∀ c ∈ after.head?, isTermChar c = false) :
    trimmedPieces (before ++ after) = trimmedPieces before ++ trimmedPieces after := by
  cases after with
  | nil => rw [List.append_nil, trimmedPieces_nil, List.append_nil]
  | cons c after =>
    have hc : isTermChar c = false := h c rfl
    rw [trimmedPieces_append_cons hc, trimmedPieces_cons_of_not_isTermChar hc]

theorem trimmedPieces_cons_of_isJoiner {c : Char} (hc : isJoiner c = true) (rest : List Char) :
    trimmedPieces (c :: rest) = trimmedPieces rest := by
  have hterm : ¬ (!isTermChar c) = true := by simp [isTermChar_of_isJoiner hc]
  obtain ⟨piece, more, hrest⟩ := List.exists_cons_of_ne_nil (List.splitOnP_ne_nil (fun c => !isTermChar c) rest)
  have hcons : pieces (c :: rest) = (c :: piece) :: more := by
    rw [pieces, List.splitOnP_cons_eq_if_modifyHead, if_neg hterm, hrest, List.modifyHead_cons]
  rw [trimmedPieces, trimmedPieces, hcons, List.map_cons, trimmedPiece_of_isJoiner hc, ← List.map_cons, pieces, hrest]

/-- A text of one piece that begins with a letter or digit only loses periods. -/
theorem trimmedPieces_run {c : Char} (hc : isAlphanumeric c = true) {rest : List Char}
    (hrest : ∀ d ∈ rest, isTermChar d = true) : trimmedPieces (c :: rest) = [withoutPeriods (c :: rest)] := by
  have hpieces : pieces (c :: rest) = [c :: rest] := by
    refine List.splitOnP_eq_singleton fun d hd => ?_
    rcases List.mem_cons.1 hd with rfl | hd
    · simp [isTermChar_of_isAlphanumeric hc]
    · simp [hrest d hd]
  obtain ⟨kept, hkept⟩ := withoutPeriods_cons hc rest
  rw [trimmedPieces, hpieces, List.map_singleton, trimmedPiece_of_isAlphanumeric hc, hkept]
  rfl

theorem trimmedPieces_cons_of_isAlphanumeric {c : Char} (hc : isAlphanumeric c = true) (rest : List Char) :
    trimmedPieces (c :: rest) =
      withoutPeriods (c :: rest.takeWhile isTermChar) :: trimmedPieces (rest.dropWhile isTermChar) := by
  have hend : ∀ d ∈ (rest.dropWhile isTermChar).head?, isTermChar d = false := by
    intro d hd
    have := List.head?_dropWhile_not isTermChar rest
    simpa [Option.mem_def.1 hd] using this
  calc trimmedPieces (c :: rest)
    _ = trimmedPieces (c :: rest.takeWhile isTermChar ++ rest.dropWhile isTermChar) := by
      rw [List.cons_append, List.takeWhile_append_dropWhile]
    _ = trimmedPieces (c :: rest.takeWhile isTermChar) ++ trimmedPieces (rest.dropWhile isTermChar) :=
      trimmedPieces_append hend
    _ = _ := by
      rw [trimmedPieces_run hc (List.all_eq_true.1 List.all_takeWhile), List.singleton_append]

/-! ## Runs -/

/-- Each run is a piece from its first letter or digit on. -/
theorem map_termRuns (cs : List Char) : (termRuns cs).map withoutPeriods = trimmedPieces cs := by
  fun_induction termRuns cs with
  | case1 => exact trimmedPieces_nil.symm
  | case2 c rest hc ih => rw [List.map_cons, ih, trimmedPieces_cons_of_isAlphanumeric hc]
  | case3 c rest hc ih =>
    rw [ih]
    by_cases hj : isJoiner c = true
    · rw [trimmedPieces_cons_of_isJoiner hj]
    · have hterm : isTermChar c = false := by simp_all [isTermChar]
      rw [trimmedPieces_cons_of_not_isTermChar hterm]

theorem filter_alphanumeric_withoutPeriods (run : List Char) :
    (withoutPeriods run).filter isAlphanumeric = run.filter isAlphanumeric := by
  induction run using List.reverseRecOn with
  | nil => rfl
  | append_singleton run c ih =>
    rw [withoutPeriods_eq_rdropWhile, List.rdropWhile_concat]
    by_cases hc : (c == '.') = true
    · have hno : isAlphanumeric c = false := by
        rw [beq_iff_eq.1 hc]
        decide
      have hlast : [c].filter isAlphanumeric = [] := by rw [List.filter_singleton, hno]; rfl
      rw [if_pos hc, List.filter_append, hlast, List.append_nil]
      exact ih
    · rw [if_neg hc]

/-- What lies between the runs has neither letters nor digits. -/
theorem flatMap_alphanumeric_termRuns (cs : List Char) :
    (termRuns cs).flatMap (fun run => run.filter isAlphanumeric) = cs.filter isAlphanumeric := by
  fun_induction termRuns cs with
  | case1 => rfl
  | case2 c rest hc ih =>
    calc ((c :: rest.takeWhile isTermChar) :: termRuns (rest.dropWhile isTermChar)).flatMap
          (fun run => run.filter isAlphanumeric)
      _ = (c :: rest.takeWhile isTermChar).filter isAlphanumeric ++
            (rest.dropWhile isTermChar).filter isAlphanumeric := by rw [List.flatMap_cons, ih]
      _ = (c :: (rest.takeWhile isTermChar ++ rest.dropWhile isTermChar)).filter isAlphanumeric := by
        rw [← List.filter_append, List.cons_append]
      _ = (c :: rest).filter isAlphanumeric := by rw [List.takeWhile_append_dropWhile]
  | case3 c rest hc ih => rw [ih, List.filter_cons_of_neg hc]

/-! ## Terms -/

namespace Term

theorem scan_eq_map (s : String) :
    scan s = (trimmedPieces s.toList).map fun piece => { text := String.ofList piece, marked := false } := by
  rw [scan, ← map_termRuns, List.map_map]
  rfl

theorem flatMap_alphanumeric_scan (s : String) :
    (scan s).flatMap (fun t => t.text.toList.filter isAlphanumeric) = s.toList.filter isAlphanumeric := by
  rw [scan, List.flatMap_map, ← flatMap_alphanumeric_termRuns]
  refine List.flatMap_congr fun run _ => ?_
  rw [String.toList_ofList, filter_alphanumeric_withoutPeriods]

/-- **The terms of a text are its trimmed pieces**, none of them marked, and no letter or digit of the text is lost,
doubled or moved. -/
theorem scan_eq_trimmedPieces (s : String) :
    scan s = (trimmedPieces s.toList).map (fun piece => { text := String.ofList piece, marked := false }) ∧
    (scan s).flatMap (fun t => t.text.toList.filter isAlphanumeric) = s.toList.filter isAlphanumeric :=
  ⟨scan_eq_map s, flatMap_alphanumeric_scan s⟩

end Term

example : trimmedPieces "'Ivan's... @st., j.doe@example.com.".toList =
    ["Ivan's".toList, "st".toList, "j.doe@example.com".toList] := by decide

end FullText
