import FullText.Plan.Compile

/-!
# What the terms of a text are made of

* `termRuns_eq_nil_iff`, `Term.scan_eq_nil_iff` — a text has terms exactly if it has a letter or digit;
* `Term.isTermChar_of_mem_scan` — the terms hold letters, digits, apostrophes, periods and `@`;
* `Query.mem_text` — the text of a query adds only its own signs to the characters of its terms.
-/

namespace FullText

open Text

/-! ## Terms of a text -/

theorem termRuns_eq_nil_iff {cs : List Char} : termRuns cs = [] ↔ ∀ c ∈ cs, isAlphanumeric c = false := by
  fun_induction termRuns cs with
  | case1 => simp
  | case2 c rest hc ih => simp [hc]
  | case3 c rest hc ih =>
    rw [ih, List.forall_mem_cons]
    exact ⟨fun h => ⟨by simpa using hc, h⟩, fun h => h.2⟩

theorem isTermChar_of_mem_termRuns {cs run : List Char} (h : run ∈ termRuns cs) {c : Char} (hc : c ∈ run) :
    isTermChar c = true := by
  fun_induction termRuns cs with
  | case1 => cases h
  | case2 d rest hd ih =>
    rcases List.mem_cons.1 h with rfl | h
    · rcases List.mem_cons.1 hc with rfl | hc
      · simp [isTermChar, hd]
      · exact List.all_eq_true.1 List.all_takeWhile c hc
    · exact ih h
  | case3 d rest hd ih => exact ih h

namespace Term

theorem scan_eq_nil_iff {s : String} : Term.scan s = [] ↔ ∀ c ∈ s.toList, isAlphanumeric c = false := by
  rw [scan, List.map_eq_nil_iff, termRuns_eq_nil_iff]

theorem isTermChar_of_mem_scan {s : String} {t : Term} (h : t ∈ Term.scan s) {c : Char} (hc : c ∈ t.text.toList) :
    isTermChar c = true := by
  simp only [scan, List.mem_map] at h
  obtain ⟨run, hrun, rfl⟩ := h
  have hsub : withoutPeriods run ⊆ run := by
    intro x hx
    have := (List.dropWhile_sublist _).subset (List.mem_reverse.1 hx)
    exact List.mem_reverse.1 this
  exact isTermChar_of_mem_termRuns hrun (hsub (by simpa using hc))

end Term

/-! ## Terms of a search -/

theorem Options.termsOf_eq_nil_iff {o : Options} {s : String} :
    o.termsOf s = [] ↔ ∀ c ∈ s.toList, isAlphanumeric c = false := by
  rw [termsOf, Wildcard.apply_eq_nil, Term.scan_eq_nil_iff]

theorem Options.isTermChar_of_mem_termsOf {o : Options} {s : String} {t : Term} (h : t ∈ o.termsOf s) {c : Char}
    (hc : c ∈ t.text.toList) : isTermChar c = true := by
  -- marking keeps the texts
  have htext : t.text ∈ (Term.scan s).map Term.text := by
    rw [← Wildcard.text_apply o.wildcard]
    exact List.mem_map_of_mem h
  obtain ⟨u, hu, hut⟩ := List.mem_map.1 htext
  exact Term.isTermChar_of_mem_scan hu (hut ▸ hc)

/-! ## The text of a query -/

theorem mem_joined {separator : String} {texts : List String} {c : Char} (h : c ∈ (joined separator texts).toList) :
    c ∈ separator.toList ∨ ∃ s ∈ texts, c ∈ s.toList := by
  induction texts with
  | nil => simp at h
  | cons s rest ih =>
    cases rest with
    | nil => exact .inr ⟨s, List.mem_cons_self, h⟩
    | cons u rest =>
      rw [joined_cons_cons, String.toList_append, String.toList_append, List.mem_append, List.mem_append] at h
      rcases h with (h | h) | h
      · exact .inr ⟨s, List.mem_cons_self, h⟩
      · exact .inl h
      · rcases ih h with h | ⟨v, hv, hc⟩
        · exact .inl h
        · exact .inr ⟨v, List.mem_cons_of_mem s hv, hc⟩

theorem Term.mem_lexeme {t : Term} {c : Char} (h : c ∈ t.lexeme.toList) :
    c ∈ ['\'', ':', '*'] ∨ c ∈ t.text.toList := by
  simp only [lexeme, String.toList_append, String.toList_ofList, List.mem_append, List.mem_flatMap] at h
  rcases h with ((h | ⟨d, hd, h⟩) | h) | h
  · simp_all
  · have : c = d := by
      unfold lexemeChar at h
      split at h <;> simpa using h
    exact .inr (this ▸ hd)
  · simp_all
  · unfold suffix at h
    split at h <;> simp_all

/-- The characters in the text of a query: its own signs, and those of its terms. -/
theorem Query.mem_text {q : Query} {c : Char} (h : c ∈ q.text.toList) :
    c ∈ ['\'', ':', '*', ' ', '&', '|'] ∨ ∃ t ∈ q.terms, c ∈ t.text.toList := by
  rcases mem_joined h with h | ⟨s, hs, hc⟩
  · have hsign : c = ' ' ∨ c = '&' ∨ c = '|' := by
      cases ho : q.operator <;> simp [ho, Operator.symbol] at h <;> grind
    left
    rcases hsign with rfl | rfl | rfl <;> simp
  · obtain ⟨t, ht, rfl⟩ := List.mem_map.1 hs
    rcases Term.mem_lexeme hc with h | h
    · exact .inl (List.mem_append_left [' ', '&', '|'] h)
    · exact .inr ⟨t, ht, h⟩

end FullText
