import FullText.Proofs.Term.Alphabet
import FullText.Proofs.Term.Pieces

/-!
# Texts of terms

The lists of texts that a scan can give, and how they are written so that a scan gives them back.

* `NormalText` — what the text of a term looks like; `normalText_of_mem_scan`, `trimmedPieces_of_normalText`.
* `IsGap`, `spread` — texts with a gap of any kind behind each of them; `joined_eq_spread`: joining is one way.
* `Term.scan_spread` — a scan gives back texts that are spread.
* `Term.texts_scan_normal` — hence the lists of texts that a scan gives are those of normal texts.
-/

namespace FullText

open Text

/-! ## Normal texts -/

/-- A text as terms have it: it begins with a letter or digit, has only characters of terms and ends in no period. -/
structure NormalText (s : String) : Prop where
  head : ∃ c rest, s.toList = c :: rest ∧ isAlphanumeric c = true
  isTermChar : ∀ c ∈ s.toList, isTermChar c = true
  getLast_ne : s.toList.getLast? ≠ some '.'

theorem getLast?_withoutPeriods_ne (run : List Char) : (withoutPeriods run).getLast? ≠ some '.' := by
  intro h
  have hne : withoutPeriods run ≠ [] := by
    intro hnil
    rw [hnil] at h
    cases h
  rw [List.getLast?_eq_some_getLast hne, Option.some.injEq] at h
  have hlast : ¬ ((withoutPeriods run).getLast hne == '.') = true := List.rdropWhile_last_not _ run hne
  rw [h] at hlast
  exact hlast rfl

theorem withoutPeriods_of_getLast?_ne {run : List Char} (h : run.getLast? ≠ some '.') : withoutPeriods run = run := by
  rcases List.eq_nil_or_concat' run with rfl | ⟨init, c, rfl⟩
  · rfl
  · have hc : ¬ (c == '.') = true := by simpa using h
    rw [withoutPeriods_eq_rdropWhile, List.rdropWhile_concat_neg _ _ c hc]

theorem exists_cons_of_mem_termRuns {cs run : List Char} (h : run ∈ termRuns cs) :
    ∃ c rest, run = c :: rest ∧ isAlphanumeric c = true := by
  fun_induction termRuns cs with
  | case1 => cases h
  | case2 c rest hc ih =>
    rcases List.mem_cons.1 h with rfl | h
    · exact ⟨c, _, rfl, hc⟩
    · exact ih h
  | case3 c rest hc ih => exact ih h

theorem normalText_of_mem_scan {s : String} {t : Term} (h : t ∈ Term.scan s) : NormalText t.text where
  head := by
    obtain ⟨run, hrun, rfl⟩ := List.mem_map.1 h
    obtain ⟨c, rest, rfl, hc⟩ := exists_cons_of_mem_termRuns hrun
    obtain ⟨kept, hkept⟩ := withoutPeriods_cons hc rest
    exact ⟨c, kept, by rw [String.toList_ofList, hkept], hc⟩
  isTermChar := fun _ hc => Term.isTermChar_of_mem_scan h hc
  getLast_ne := by
    obtain ⟨run, -, rfl⟩ := List.mem_map.1 h
    rw [String.toList_ofList]
    exact getLast?_withoutPeriods_ne run

/-- A normal text is one term as it stands. -/
theorem trimmedPieces_of_normalText {s : String} (h : NormalText s) : trimmedPieces s.toList = [s.toList] := by
  obtain ⟨c, rest, hs, hc⟩ := h.head
  have hrest : ∀ d ∈ rest, isTermChar d = true := by
    intro d hd
    exact h.isTermChar d (hs ▸ List.mem_cons_of_mem c hd)
  have hlast := h.getLast_ne
  rw [hs] at hlast ⊢
  rw [trimmedPieces_run hc hrest, withoutPeriods_of_getLast?_ne hlast]

/-! ## Gaps -/

/-- That no character of a text can stand in a term. -/
def IsGap (s : String) : Prop := ∀ c ∈ s.toList, isTermChar c = false

instance (s : String) : Decidable (IsGap s) :=
  decidable_of_iff (s.toList.all fun c => !isTermChar c) (by simp [IsGap])

theorem isGap_empty : IsGap "" := by simp [IsGap]

/-- Texts with what stands behind each of them, after what stands before them all. -/
def spread (before : String) : List (String × String) → String
  | [] => before
  | (text, gap) :: rest => before ++ text ++ spread gap rest

theorem trimmedPieces_append_of_not_isTermChar {gap : List Char} (h : ∀ c ∈ gap, isTermChar c = false)
    (cs : List Char) : trimmedPieces (gap ++ cs) = trimmedPieces cs := by
  induction gap with
  | nil => rfl
  | cons c rest ih =>
    rw [List.forall_mem_cons] at h
    rw [List.cons_append, trimmedPieces_cons_of_not_isTermChar h.1, ih h.2]

theorem trimmedPieces_of_isGap {gap : String} (h : IsGap gap) : trimmedPieces gap.toList = [] := by
  simpa [trimmedPieces_nil] using trimmedPieces_append_of_not_isTermChar h []

/-- A spread text begins with the gap before it, unless that is empty. -/
theorem head?_spread {gap : String} (hgap : IsGap gap) {rest : List (String × String)} (h : gap ≠ "" ∨ rest = []) :
    ∀ c ∈ (spread gap rest).toList.head?, isTermChar c = false := by
  intro c hc
  rcases rest with _ | ⟨part, more⟩
  · exact hgap c (List.mem_of_head? hc)
  · have hne : gap.toList ≠ [] := by
      rcases h with h | h
      · simpa using h
      · cases h
    obtain ⟨d, ds, hd⟩ := List.exists_cons_of_ne_nil hne
    have hhead : (spread gap (part :: more)).toList.head? = some d := by
      simp [spread, String.toList_append, hd]
    rw [hhead, Option.mem_def, Option.some.injEq] at hc
    exact hc ▸ hgap d (hd ▸ List.mem_cons_self)

/-- That normal texts stand apart: a gap is behind each of them, which is not empty unless it is the last. -/
structure StandApart (parts : List (String × String)) : Prop where
  normal : ∀ part ∈ parts, NormalText part.1
  isGap : ∀ part ∈ parts, IsGap part.2
  gap_ne : ∀ part ∈ parts.dropLast, part.2 ≠ ""

theorem standApart_cons {text gap : String} {rest : List (String × String)} :
    StandApart ((text, gap) :: rest) ↔
      NormalText text ∧ IsGap gap ∧ (gap ≠ "" ∨ rest = []) ∧ StandApart rest := by
  constructor
  · intro h
    refine ⟨h.normal _ List.mem_cons_self, h.isGap _ List.mem_cons_self, ?_, ?_, ?_, ?_⟩
    · rcases rest with _ | ⟨next, more⟩
      · exact .inr rfl
      · exact .inl (h.gap_ne (text, gap) List.mem_cons_self)
    · exact fun part hpart => h.normal part (List.mem_cons_of_mem _ hpart)
    · exact fun part hpart => h.isGap part (List.mem_cons_of_mem _ hpart)
    · intro part hpart
      rcases rest with _ | ⟨next, more⟩
      · cases hpart
      · exact h.gap_ne part (List.mem_cons_of_mem _ hpart)
  · rintro ⟨htext, hgap, hne, h⟩
    refine ⟨List.forall_mem_cons.2 ⟨htext, h.normal⟩, List.forall_mem_cons.2 ⟨hgap, h.isGap⟩, ?_⟩
    rcases rest with _ | ⟨next, more⟩
    · simp
    · rw [List.dropLast_cons_of_ne_nil (List.cons_ne_nil next more), List.forall_mem_cons]
      exact ⟨hne.resolve_right (List.cons_ne_nil next more), h.gap_ne⟩

/-- What is spread is found again; the gap before the first text may be empty as well. -/
theorem trimmedPieces_spread {before : String} {parts : List (String × String)} (hbefore : IsGap before)
    (h : StandApart parts) : trimmedPieces (spread before parts).toList = parts.map fun part => part.1.toList := by
  induction parts generalizing before with
  | nil => exact trimmedPieces_of_isGap hbefore
  | cons part rest ih =>
    obtain ⟨text, gap⟩ := part
    obtain ⟨htext, hgap, hne, hrest⟩ := standApart_cons.1 h
    calc trimmedPieces (spread before ((text, gap) :: rest)).toList
      _ = trimmedPieces (before.toList ++ (text.toList ++ (spread gap rest).toList)) := by
        rw [spread, String.toList_append, String.toList_append, List.append_assoc]
      _ = trimmedPieces (text.toList ++ (spread gap rest).toList) := trimmedPieces_append_of_not_isTermChar hbefore _
      _ = trimmedPieces text.toList ++ trimmedPieces (spread gap rest).toList :=
        trimmedPieces_append (head?_spread hgap hne)
      _ = text.toList :: rest.map fun part => part.1.toList := by
        rw [trimmedPieces_of_normalText htext, ih hgap hrest, List.singleton_append]

/-! ## Joined texts -/

/-- Texts with a separator behind each but the last. -/
def separatedBy (sep : String) : List String → List (String × String)
  | [] => []
  | [text] => [(text, "")]
  | text :: rest => (text, sep) :: separatedBy sep rest

theorem map_fst_separatedBy (sep : String) (texts : List String) : (separatedBy sep texts).map Prod.fst = texts := by
  fun_induction separatedBy sep texts with
  | case1 => rfl
  | case2 text => rfl
  | case3 text rest _ ih => rw [List.map_cons, ih]

theorem spread_separatedBy (sep before text : String) (rest : List String) :
    spread before (separatedBy sep (text :: rest)) = before ++ joined sep (text :: rest) := by
  induction rest generalizing before text with
  | nil => rw [separatedBy, spread, spread, String.append_empty, joined_singleton]
  | cons next more ih =>
    rw [separatedBy, spread, ih, joined_cons_cons, String.append_assoc, String.append_assoc]
    simp

theorem joined_eq_spread (sep : String) (texts : List String) :
    joined sep texts = spread "" (separatedBy sep texts) := by
  cases texts with
  | nil => rfl
  | cons text rest => rw [spread_separatedBy, String.empty_append]

theorem standApart_separatedBy {sep : String} (hsep : IsGap sep) (hne : sep ≠ "") {texts : List String}
    (h : ∀ text ∈ texts, NormalText text) : StandApart (separatedBy sep texts) := by
  have hnone : StandApart [] := ⟨by simp, by simp, by simp⟩
  fun_induction separatedBy sep texts with
  | case1 => exact hnone
  | case2 text => exact standApart_cons.2 ⟨h text List.mem_cons_self, isGap_empty, .inr rfl, hnone⟩
  | case3 text rest _ ih =>
    rw [List.forall_mem_cons] at h
    exact standApart_cons.2 ⟨h.1, hsep, .inl hne, ih h.2⟩

/-! ## Scans -/

namespace Term

theorem scan_spread {before : String} {parts : List (String × String)} (hbefore : IsGap before)
    (h : StandApart parts) : scan (spread before parts) = (parts.map Prod.fst).map fun text => { text } := by
  rw [scan_eq_map, trimmedPieces_spread hbefore h, List.map_map, List.map_map]
  refine List.map_congr_left fun part _ => ?_
  rw [Function.comp_apply, String.ofList_toList, Function.comp_apply]

theorem scan_joined {sep : String} (hsep : IsGap sep) (hne : sep ≠ "") {texts : List String}
    (h : ∀ text ∈ texts, NormalText text) : scan (joined sep texts) = texts.map fun text => { text } := by
  rw [joined_eq_spread, scan_spread isGap_empty (standApart_separatedBy hsep hne h), map_fst_separatedBy]

/-- A scan marks nothing, so its texts say all. -/
theorem map_text_scan (s : String) : ((scan s).map Term.text).map (fun text => { text }) = scan s := by
  have hid : (scan s).map ((fun text => { text }) ∘ Term.text) = (scan s).map id := by
    refine List.map_congr_left fun t ht => ?_
    have hmarked : t.marked = false := marked_of_mem_scan ht
    cases t
    simp_all
  rw [List.map_map, hid, List.map_id]

theorem normalText_of_mem_map_scan {s text : String} (h : text ∈ (scan s).map Term.text) : NormalText text := by
  obtain ⟨t, ht, rfl⟩ := List.mem_map.1 h
  exact normalText_of_mem_scan ht

theorem exists_scan_iff {texts : List String} :
    (∃ s, (scan s).map Term.text = texts) ↔ ∀ text ∈ texts, NormalText text := by
  constructor
  · rintro ⟨s, rfl⟩ text htext
    exact normalText_of_mem_map_scan htext
  · intro h
    have hblank : IsGap " " := by decide
    refine ⟨joined " " texts, ?_⟩
    rw [scan_joined hblank (by decide) h, List.map_map]
    exact List.map_id texts

theorem scan_joined_scan {sep : String} (hsep : IsGap sep) (hne : sep ≠ "") (s : String) :
    scan (joined sep ((scan s).map Term.text)) = scan s := by
  rw [scan_joined hsep hne fun text => normalText_of_mem_map_scan, map_text_scan]

/-- **Lists of normal texts are what a scan gives.**  However they are spread over a text, a scan finds them again; and
to join the terms of a text and scan once more gives the same terms. -/
theorem texts_scan_normal :
    (∀ texts : List String, (∃ s, (scan s).map Term.text = texts) ↔ ∀ text ∈ texts, NormalText text) ∧
    (∀ (before : String) (parts : List (String × String)), IsGap before → StandApart parts →
      scan (spread before parts) = (parts.map Prod.fst).map fun text => { text }) ∧
    ∀ sep s : String, IsGap sep → sep ≠ "" → scan (joined sep ((scan s).map Term.text)) = scan s :=
  ⟨fun _ => exists_scan_iff, fun _ _ => scan_spread, fun _ s hsep hne => scan_joined_scan hsep hne s⟩

/-- Terms that end in an apostrophe and in `@`, one with a run of periods inside, and different gaps. -/
theorem texts_scan_normal_periods :
    let parts := [("dogs'", ", "), ("a..b", "_"), ("x@", "")]
    IsGap "(" ∧ StandApart parts ∧ spread "(" parts = "(dogs', a..b_x@" ∧
      scan "(dogs', a..b_x@" = [{ text := "dogs'" }, { text := "a..b" }, { text := "x@" }] ∧
      scan (joined "-" ["dogs'", "a..b", "x@"]) = scan "(dogs', a..b_x@" := by
  intro parts
  have hnormal : ∀ part ∈ parts, NormalText part.1 := by
    intro part hpart
    have hcases : part = ("dogs'", ", ") ∨ part = ("a..b", "_") ∨ part = ("x@", "") := by simpa [parts] using hpart
    rcases hcases with rfl | rfl | rfl
    · exact ⟨⟨'d', "ogs'".toList, by decide, by decide⟩, List.all_eq_true.1 (by decide), by decide⟩
    · exact ⟨⟨'a', "..b".toList, by decide, by decide⟩, List.all_eq_true.1 (by decide), by decide⟩
    · exact ⟨⟨'x', "@".toList, by decide, by decide⟩, List.all_eq_true.1 (by decide), by decide⟩
  have hparts : StandApart parts := ⟨hnormal, by decide, by decide⟩
  have hbefore : IsGap "(" := by decide
  have hspread : spread "(" parts = "(dogs', a..b_x@" := by decide
  have hscan := texts_scan_normal.2.1 "(" parts hbefore hparts
  rw [hspread] at hscan
  have hagain := texts_scan_normal.2.2 "-" "(dogs', a..b_x@" (by decide) (by decide)
  rw [hscan] at hagain
  exact ⟨hbefore, hparts, hspread, hscan, hagain.trans hscan.symm⟩

end Term

end FullText
