import FullText.Query

/-!
# Reading the notation of queries

The text of a query is read back sign by sign, without knowing which query it was written for.

* `readBody` reads the inside of a quoted lexeme: two backslashes are a backslash, two apostrophes are an apostrophe,
  and an apostrophe that stands alone ends the lexeme.
* `readTerm` reads a lexeme with the mark behind it, `readTerms` reads lexemes with a sign between neighbours.
* `Reading.ofText` reads a whole text.  `Reading.ofText_text` says that the text of a query gives back its terms, with
  its operator between any two neighbours; so the text determines both (`query_text_says_terms_and_operator`).
-/

namespace FullText

open Text

namespace Notation

/-! ## The reader -/

/-- The text of a lexeme up to the apostrophe that ends it, and what follows. -/
def readBody : List Char → Option (List Char × List Char)
  | '\\' :: '\\' :: rest => (readBody rest).map fun (text, after) => ('\\' :: text, after)
  | '\\' :: _ => none
  | '\'' :: '\'' :: rest => (readBody rest).map fun (text, after) => ('\'' :: text, after)
  | '\'' :: rest => some ([], rest)
  | c :: rest => (readBody rest).map fun (text, after) => (c :: text, after)
  | [] => none

/-- Whether the mark of a prefix match stands here, and what follows. -/
def readMark : List Char → Bool × List Char
  | ':' :: '*' :: rest => (true, rest)
  | rest => (false, rest)

/-- A lexeme with its mark, and what follows. -/
def readTerm : List Char → Option (Term × List Char)
  | '\'' :: rest => (readBody rest).map fun (text, after) =>
      ({ text := String.ofList text, marked := (readMark after).1 }, (readMark after).2)
  | _ => none

/-- The sign of an operator between blanks, and what follows. -/
def readSign : List Char → Option (Operator × List Char)
  | ' ' :: '&' :: ' ' :: rest => some (.and, rest)
  | ' ' :: '|' :: ' ' :: rest => some (.or, rest)
  | _ => none

theorem length_readBody {cs text after : List Char} (h : readBody cs = some (text, after)) :
    after.length < cs.length := by
  fun_induction readBody cs generalizing text after with
  | case1 rest ih | case3 rest ih | case5 c rest _ _ _ _ ih =>
    obtain ⟨p, hp, he⟩ := Option.map_eq_some_iff.1 h
    obtain ⟨-, rfl⟩ := Prod.mk.inj he
    have := ih hp
    simp only [List.length_cons]
    omega
  | case2 | case6 => cases h
  | case4 rest =>
    obtain ⟨-, rfl⟩ := Prod.mk.inj (Option.some.inj h)
    simp

theorem length_readMark (cs : List Char) : (readMark cs).2.length ≤ cs.length := by
  unfold readMark
  split <;> simp only [List.length_cons] <;> omega

theorem length_readTerm {cs after : List Char} {t : Term} (h : readTerm cs = some (t, after)) :
    after.length < cs.length := by
  unfold readTerm at h
  split at h
  · next rest =>
    obtain ⟨p, hp, he⟩ := Option.map_eq_some_iff.1 h
    obtain ⟨-, rfl⟩ := Prod.mk.inj he
    have h1 := length_readBody hp
    have h2 := length_readMark p.2
    simp only [List.length_cons]
    omega
  · cases h

theorem length_readSign {cs after : List Char} {o : Operator} (h : readSign cs = some (o, after)) :
    after.length < cs.length := by
  unfold readSign at h
  split at h <;> cases h <;> simp only [List.length_cons] <;> omega

/-- What a text in the notation of queries says: the terms in order, and the operators between neighbours. -/
structure Reading where
  terms : List Term
  operators : List Operator
  deriving DecidableEq, Repr, Inhabited

/-- Lexemes with signs between neighbours, up to the end. -/
def readTerms (cs : List Char) : Option Reading :=
  match _h : readTerm cs with
  | none => none
  | some (t, after) =>
    if after = [] then some ⟨[t], []⟩
    else
      match _hs : readSign after with
      | none => none
      | some (o, rest) => (readTerms rest).map fun r => ⟨t :: r.terms, o :: r.operators⟩
termination_by cs.length
decreasing_by
  have h1 := length_readTerm _h
  have h2 := length_readSign _hs
  omega

theorem readTerms_last {cs : List Char} {t : Term} (h : readTerm cs = some (t, [])) :
    readTerms cs = some ⟨[t], []⟩ := by
  rw [readTerms]
  split <;> simp_all

theorem readTerms_cons {cs after rest : List Char} {t : Term} {o : Operator} (h : readTerm cs = some (t, after))
    (hs : readSign after = some (o, rest)) :
    readTerms cs = (readTerms rest).map fun r => ⟨t :: r.terms, o :: r.operators⟩ := by
  have hne : after ≠ [] := by rintro rfl; simp [readSign] at hs
  rw [readTerms]
  split
  · simp_all
  · next u tail hu =>
    obtain ⟨rfl, rfl⟩ := Prod.mk.inj (Option.some.inj (h.symm.trans hu))
    rw [if_neg hne]
    split <;> simp_all

/-- Reads a whole text; the empty text has no terms. -/
def Reading.ofText (s : String) : Option Reading := if s = "" then some ⟨[], []⟩ else readTerms s.toList

/-! ## Reading what was written -/

theorem readBody_cons_of_ne {c : Char} (h1 : c ≠ '\\') (h2 : c ≠ '\'') (rest : List Char) :
    readBody (c :: rest) = (readBody rest).map fun (text, after) => (c :: text, after) := by
  rw [readBody] <;> simp_all

theorem readBody_end {rest : List Char} (h : rest.head? ≠ some '\'') :
    readBody ('\'' :: rest) = some ([], rest) := by
  cases rest with
  | nil => rfl
  | cons d rest =>
    have hd : d ≠ '\'' := by simpa using h
    rw [readBody]
    simp_all

theorem readBody_lexeme {rest : List Char} (h : rest.head? ≠ some '\'') (text : List Char) :
    readBody (text.flatMap lexemeChar ++ '\'' :: rest) = some (text, rest) := by
  induction text with
  | nil => exact readBody_end h
  | cons c text ih =>
    rw [List.flatMap_cons, List.append_assoc]
    by_cases h1 : c = '\\'
    · subst h1
      simp [lexemeChar, readBody, ih]
    · by_cases h2 : c = '\''
      · subst h2
        simp [lexemeChar, readBody, ih]
      · simp [lexemeChar, h1, h2, readBody_cons_of_ne, ih]

end Notation

open Notation

namespace Term

theorem toList_lexeme (t : Term) :
    t.lexeme.toList = '\'' :: (t.text.toList.flatMap lexemeChar ++ '\'' :: t.suffix.toList) := by
  simp [lexeme]

theorem lexeme_ne_empty (t : Term) : t.lexeme ≠ "" := by
  intro h
  have := congrArg String.toList h
  simp [toList_lexeme] at this

theorem readMark_suffix (t : Term) {rest : List Char} (h : rest.head? ≠ some ':') :
    readMark (t.suffix.toList ++ rest) = (t.marked, rest) := by
  cases hb : t.marked with
  | true => simp [suffix, hb, readMark]
  | false =>
    simp only [suffix, hb, Bool.false_eq_true, if_false, String.toList_empty, List.nil_append]
    unfold readMark
    split
    · simp at h
    · rfl

theorem readTerm_lexeme (t : Term) {rest : List Char} (h1 : rest.head? ≠ some '\'') (h2 : rest.head? ≠ some ':') :
    readTerm (t.lexeme.toList ++ rest) = some (t, rest) := by
  have hq : (t.suffix.toList ++ rest).head? ≠ some '\'' := by
    cases hb : t.marked <;> simp [suffix, hb, h1]
  rw [toList_lexeme]
  simp only [List.cons_append, List.append_assoc, readTerm, readBody_lexeme hq, Option.map_some, readMark_suffix t h2,
    String.ofList_toList]

end Term

theorem readSign_symbol (o : Operator) (rest : List Char) :
    readSign ((" " ++ o.symbol ++ " ").toList ++ rest) = some (o, rest) := by
  cases o <;> simp [Operator.symbol, readSign]

/-- Behind a lexeme stands the end or a sign, which begins with a blank. -/
theorem readTerms_lexemes (o : Operator) (t : Term) (rest : List Term) :
    readTerms (joined (" " ++ o.symbol ++ " ") ((t :: rest).map Term.lexeme)).toList =
      some ⟨t :: rest, List.replicate rest.length o⟩ := by
  induction rest generalizing t with
  | nil =>
    have h : readTerm (t.lexeme.toList ++ []) = some (t, []) := t.readTerm_lexeme (by simp) (by simp)
    rw [List.append_nil] at h
    rw [List.map_singleton, joined_singleton, readTerms_last h]
    rfl
  | cons u rest ih =>
    -- `ih` reads the text from the next lexeme on
    have hterm : readTerm (joined (" " ++ o.symbol ++ " ") ((t :: u :: rest).map Term.lexeme)).toList =
        some (t, (" " ++ o.symbol ++ " ").toList ++
          (joined (" " ++ o.symbol ++ " ") ((u :: rest).map Term.lexeme)).toList) := by
      rw [List.map_cons, List.map_cons, joined_cons_cons, ← List.map_cons, String.toList_append, String.toList_append,
        List.append_assoc]
      exact t.readTerm_lexeme (by simp) (by simp)
    rw [readTerms_cons hterm (readSign_symbol o _), ih u, Option.map_some, List.length_cons, List.replicate_succ]

theorem Query.text_eq_empty_iff (q : Query) : q.text = "" ↔ q.terms = [] := by
  constructor
  · intro h
    rcases hq : q.terms with _ | ⟨t, _ | ⟨u, rest⟩⟩
    · rfl
    · simp [Query.text, hq, t.lexeme_ne_empty] at h
    · simp [Query.text, hq, joined_cons_cons, t.lexeme_ne_empty] at h
  · intro h
    simp [Query.text, h]

/-- The text of a query says its terms, and its operator between any two neighbours. -/
theorem Reading.ofText_text (q : Query) :
    Reading.ofText q.text = some ⟨q.terms, List.replicate (q.terms.length - 1) q.operator⟩ := by
  unfold Reading.ofText
  split
  · next h =>
    rw [(q.text_eq_empty_iff).1 h]
    rfl
  · next h =>
    obtain ⟨t, rest, ht⟩ := List.exists_cons_of_ne_nil (mt q.text_eq_empty_iff.2 h)
    rw [Query.text, ht, readTerms_lexemes, List.length_cons, Nat.add_sub_cancel]

/-- The operator is not in the text of a single term. -/
theorem Query.text_congr {q r : Query} (ht : q.terms = r.terms) (ho : 2 ≤ q.terms.length → q.operator = r.operator) :
    q.text = r.text := by
  unfold Query.text
  rw [← ht]
  rcases hq : q.terms with _ | ⟨t, _ | ⟨u, rest⟩⟩
  · rfl
  · rfl
  · rw [ho (by simp [hq])]

/-- **The text of a query says its terms and its operator, and no more.** -/
theorem query_text_says_terms_and_operator :
    (∀ q : Query, Reading.ofText q.text = some ⟨q.terms, List.replicate (q.terms.length - 1) q.operator⟩) ∧
    (∀ q r : Query, q.text = r.text ↔ q.terms = r.terms ∧ (2 ≤ q.terms.length → q.operator = r.operator)) := by
  refine ⟨Reading.ofText_text, fun q r => ⟨fun h => ?_, fun ⟨ht, ho⟩ => Query.text_congr ht ho⟩⟩
  have hread : Reading.ofText q.text = Reading.ofText r.text := by rw [h]
  rw [Reading.ofText_text, Reading.ofText_text, Option.some.injEq, Reading.mk.injEq] at hread
  obtain ⟨hterms, hoperators⟩ := hread
  refine ⟨hterms, fun hlen => ?_⟩
  rw [← hterms, List.replicate_inj] at hoperators
  rcases hoperators.2 with hzero | heq
  · omega
  · exact heq

end FullText
