import FullText.Proofs.Json.Reading
import Mathlib.Algebra.Group.Nat.Defs
import Mathlib.Logic.Function.Basic
import Mathlib.Tactic.SplitIfs

/-!
# Reading back written JSON

The text of a value can be read back, so it determines the value.

* `readString_flatMap_escapedChar`, `readInt_toString` — a text and a number are read up to what follows them.
* `readSeparated_joined`, `readEnclosed_enclosed` — so are several values between brackets, if each of them is.
* `readValue_prettyAt` — hence every value at every level; `read?_pretty` is the same for a whole text, and
  `pretty_injective` follows.
-/

namespace FullText.Json

open Text

/-! ## Blanks -/

/-- That a text begins with what a value may begin with: no blank, and no bracket that closes. -/
def Opens (cs : List Char) : Prop := ∃ c rest, cs = c :: rest ∧ isSpace c = false ∧ c ≠ ']' ∧ c ≠ '\x7d'

/-- That a text does not carry on a number. -/
def EndsNumber (cs : List Char) : Prop := ∀ c ∈ cs.head?, c.isDigit = false

theorem Opens.append {cs : List Char} (h : Opens cs) (rest : List Char) : Opens (cs ++ rest) := by
  obtain ⟨c, more, rfl, hc⟩ := h
  exact ⟨c, more ++ rest, rfl, hc⟩

theorem skipSpaces_of_opens {cs : List Char} (h : Opens cs) : skipSpaces cs = cs := by
  obtain ⟨c, rest, rfl, hc, -⟩ := h
  rw [skipSpaces, List.dropWhile_cons_of_neg (by simp [hc])]

theorem toList_newline (level : Nat) : (newline level).toList = '\n' :: List.replicate (2 * level) ' ' := by
  simp [newline]

theorem skipSpaces_newline (level : Nat) (cs : List Char) :
    skipSpaces ((newline level).toList ++ cs) = skipSpaces cs := by
  have hspace : ∀ c ∈ (newline level).toList, isSpace c = true := by
    intro c hc
    rw [toList_newline, List.mem_cons] at hc
    rcases hc with rfl | hc
    · rfl
    · rw [List.eq_of_mem_replicate hc]
      rfl
  exact List.dropWhile_append_of_pos hspace

theorem skipSpaces_newline_cons (level : Nat) {c : Char} (hc : isSpace c = false) (cs : List Char) :
    skipSpaces ((newline level).toList ++ c :: cs) = c :: cs := by
  rw [skipSpaces_newline, skipSpaces, List.dropWhile_cons_of_neg (by simp [hc])]

theorem isSpace_of_closing {c : Char} (hc : c = ']' ∨ c = '\x7d') : isSpace c = false := by
  rcases hc with rfl | rfl <;> rfl

theorem endsNumber_cons {c : Char} (hc : c.isDigit = false) (rest : List Char) : EndsNumber (c :: rest) := by
  rintro d ⟨⟩
  exact hc

theorem endsNumber_newline (level : Nat) (rest : List Char) : EndsNumber ((newline level).toList ++ rest) := by
  rw [toList_newline]
  exact endsNumber_cons rfl _

/-! ## Texts -/

theorem hexValue?_hexDigit {n : Nat} (h : n < 16) : hexValue? (hexDigit n) = some n := by
  have hall : ∀ n < 16, hexValue? (hexDigit n) = some n := by decide
  exact hall n h

theorem hexNumber?_hexDigits (width n : Nat) : hexNumber? (hexDigits width n) = some (n % 16 ^ width) := by
  induction width generalizing n with
  | zero => simp [hexDigits, hexNumber?, Nat.mod_one]
  | succ width ih =>
    have hdigit : hexValue? (hexDigit (n % 16)) = some (n % 16) := hexValue?_hexDigit (Nat.mod_lt n (by decide))
    have hmod : 16 * (n / 16 % 16 ^ width) + n % 16 = n % 16 ^ (width + 1) := by
      rw [Nat.pow_succ', Nat.mod_mul, Nat.add_comm]
    unfold hexNumber? at ih ⊢
    rw [hexDigits, List.foldlM_append, ih]
    simp [hdigit, hmod]

theorem readUnits_escapedUnit {n : Nat} (h : n < 0x10000) (rest : List Char) :
    readUnits (escapedUnit n ++ rest) = (readUnits rest).map fun (units, after) => (n :: units, after) := by
  have hn : hexNumber? (hexDigits 4 n) = some n := (hexNumber?_hexDigits 4 n).trans (congrArg some (Nat.mod_eq_of_lt h))
  simp only [hexDigits, List.nil_append, List.cons_append] at hn
  simp only [escapedUnit, hexDigits, List.nil_append, List.cons_append, readUnits, hn]
  cases readUnits rest <;> rfl

/-- A plain character is read as itself. -/
theorem readUnits_cons {c : Char} (hquote : c ≠ '"') (hslash : c ≠ '\\') (hplain : 0x20 ≤ c.toNat) (rest : List Char) :
    readUnits (c :: rest) = (readUnits rest).map fun (units, after) => (unitsOf c ++ units, after) := by
  rw [readUnits, if_neg (Nat.not_lt.2 hplain)]
  · cases readUnits rest <;> rfl
  · exact fun h => hquote h
  · intro a b d e more h _
    exact hslash h
  · intro d more h _
    exact hslash h

/-- A letter behind a backslash is read as the character that it stands for. -/
theorem readUnits_escaped {letter c : Char} (h : escaped? letter = some c) (rest : List Char) :
    readUnits ('\\' :: letter :: rest) = (readUnits rest).map fun (units, after) => (unitsOf c ++ units, after) := by
  rw [readUnits, h]
  · cases readUnits rest <;> rfl
  · rintro a b d e more rfl
    cases h

/-- A character is read as its units, whichever way it is written; one case for each way. -/
theorem readUnits_escapedChar (c : Char) (rest : List Char) :
    readUnits (escapedChar c ++ rest) = (readUnits rest).map fun (units, after) => (unitsOf c ++ units, after) := by
  unfold escapedChar
  split_ifs with hself hline hreturn htab hbackspace hfeed hplain hshort
  · simp only [Bool.or_eq_true, decide_eq_true_eq] at hself
    rcases hself with rfl | rfl <;> exact readUnits_escaped rfl rest
  · exact readUnits_escaped (hline ▸ rfl) rest
  · exact readUnits_escaped (hreturn ▸ rfl) rest
  · exact readUnits_escaped (htab ▸ rfl) rest
  · obtain rfl : c = '\x08' := Char.toNat_inj.1 hbackspace
    exact readUnits_escaped rfl rest
  · obtain rfl : c = '\x0c' := Char.toNat_inj.1 hfeed
    exact readUnits_escaped rfl rest
  · simp only [Bool.or_eq_true, Bool.and_eq_true, decide_eq_true_eq, not_or] at hself hplain
    exact readUnits_cons hself.1 hself.2 hplain.1 rest
  · rw [readUnits_escapedUnit hshort, unitsOf, if_pos hshort]
    rfl
  · have hvalid : c.toNat < 0xD800 ∨ 0xDFFF < c.toNat ∧ c.toNat < 0x110000 := c.valid
    rw [List.append_assoc, readUnits_escapedUnit (by omega), readUnits_escapedUnit (by omega), unitsOf, if_neg hshort]
    cases readUnits rest <;> rfl

/-- The units of a character stand for it. -/
theorem ofUnits?_unitsOf (c : Char) (units : List Nat) :
    ofUnits? (unitsOf c ++ units) = (ofUnits? units).map (c :: ·) := by
  have hvalid : c.toNat < 0xD800 ∨ 0xDFFF < c.toNat ∧ c.toNat < 0x110000 := c.valid
  unfold unitsOf
  split_ifs with hshort
  · have hhigh : isHigh c.toNat = false := by
      simp only [isHigh, Bool.and_eq_false_iff, decide_eq_false_iff_not]
      omega
    have hlow : isLow c.toNat = false := by
      simp only [isLow, Bool.and_eq_false_iff, decide_eq_false_iff_not]
      omega
    rw [List.singleton_append, ofUnits?.eq_def]
    simp [hhigh, hlow]
  · have hhigh : isHigh (0xD800 + (c.toNat - 0x10000) / 0x400) = true := by
      simp only [isHigh, Bool.and_eq_true, decide_eq_true_eq]
      omega
    have hlow : isLow (0xDC00 + (c.toNat - 0x10000) % 0x400) = true := by
      simp only [isLow, Bool.and_eq_true, decide_eq_true_eq]
      omega
    have hpair : 0x10000 + (0xD800 + (c.toNat - 0x10000) / 0x400 - 0xD800) * 0x400 +
        (0xDC00 + (c.toNat - 0x10000) % 0x400 - 0xDC00) = c.toNat := by
      omega
    rw [List.cons_append, List.singleton_append, ofUnits?, if_pos hhigh]
    simp only [hlow, if_true, hpair, Char.ofNat_toNat]

/-- A text is read up to the quote that ends it. -/
theorem readString_flatMap_escapedChar (s : String) (rest : List Char) :
    readString (s.toList.flatMap escapedChar ++ '"' :: rest) = some (s, rest) := by
  have hunits (cs : List Char) :
      readUnits (cs.flatMap escapedChar ++ '"' :: rest) = some (cs.flatMap unitsOf, rest) := by
    induction cs with
    | nil => simp [readUnits]
    | cons c cs ih => simp [readUnits_escapedChar, ih]
  have hchars (cs : List Char) : ofUnits? (cs.flatMap unitsOf) = some cs := by
    induction cs with
    | nil => rfl
    | cons c cs ih => simp [ofUnits?_unitsOf, ih]
  simp [readString, hunits, hchars]

/-! ## Numbers -/

theorem readNat_toDigits (n : Nat) {rest : List Char} (h : EndsNumber rest) :
    readNat (Nat.toDigits 10 n ++ rest) = some (n, rest) := by
  have hdigits : ∀ c ∈ Nat.toDigits 10 n, c.isDigit = true :=
    fun c hc => Nat.isDigit_of_mem_toDigits (by decide) (by decide) hc
  have hrest : rest.takeWhile Char.isDigit = [] ∧ rest.dropWhile Char.isDigit = rest := by
    cases rest with
    | nil => exact ⟨rfl, rfl⟩
    | cons c more =>
      have hc : c.isDigit = false := h c rfl
      exact ⟨List.takeWhile_cons_of_neg (by simp [hc]), List.dropWhile_cons_of_neg (by simp [hc])⟩
  have htake : (Nat.toDigits 10 n ++ rest).takeWhile Char.isDigit = Nat.toDigits 10 n := by
    rw [List.takeWhile_append_of_pos hdigits, hrest.1, List.append_nil]
  have hdrop : (Nat.toDigits 10 n ++ rest).dropWhile Char.isDigit = rest := by
    rw [List.dropWhile_append_of_pos hdigits, hrest.2]
  simp [readNat, htake, hdrop, Nat.toDigits_ne_nil, Nat.ofDigitChars_toDigits]

/-- The digits of a number do not begin with a sign. -/
theorem exists_toDigits_eq_cons (n : Nat) : ∃ c digits, Nat.toDigits 10 n = c :: digits ∧ c.isDigit = true := by
  obtain ⟨c, digits, h⟩ := List.exists_cons_of_ne_nil (Nat.toDigits_ne_nil (n := n) (b := 10))
  exact ⟨c, digits, h, Nat.isDigit_of_mem_toDigits (by decide) (by decide) (h ▸ List.mem_cons_self)⟩

theorem toList_toString (n : Int) :
    (toString n).toList = if 0 ≤ n then Nat.toDigits 10 n.toNat else '-' :: Nat.toDigits 10 (-n).toNat := by
  rw [Int.toString_eq_repr, Int.repr_eq_if]
  split <;> simp [Nat.toList_repr]

/-- A number is read up to what does not carry it on. -/
theorem readInt_toString (n : Int) {rest : List Char} (h : EndsNumber rest) :
    readInt ((toString n).toList ++ rest) = some (n, rest) := by
  rw [toList_toString]
  split
  · next hn =>
    obtain ⟨c, digits, hdigits, hc⟩ := exists_toDigits_eq_cons n.toNat
    have hsign : c ≠ '-' := by
      rintro rfl
      cases hc
    have hread := readNat_toDigits n.toNat h
    rw [hdigits] at hread ⊢
    rw [List.cons_append] at hread ⊢
    rw [readInt]
    · rw [hread, Option.map_some]
      exact congrArg (fun m => some (m, rest)) (Int.toNat_of_nonneg hn)
    · intro more hmore
      exact hsign (List.cons.inj hmore).1
  · next hn =>
    have hneg : -((-n).toNat : Int) = n := by omega
    rw [List.cons_append, readInt, readNat_toDigits _ h]
    exact congrArg (fun m => some (m, rest)) hneg

/-! ## Values between brackets -/

section
variable {α : Type}

section
variable {readOne : List Char → Option (α × List Char)} {close : Char} {n : Nat} {value : α} {values : List α}
  {cs later rest after : List Char}

theorem readSeparated_of_close (hread : readOne (skipSpaces cs) = some (value, later))
    (hlater : skipSpaces later = close :: rest) : readSeparated readOne close (n + 1) cs = some ([value], rest) := by
  simp [readSeparated, hread, hlater]

theorem readSeparated_of_comma (hread : readOne (skipSpaces cs) = some (value, later))
    (hlater : skipSpaces later = ',' :: rest) (hcomma : ',' ≠ close)
    (hmore : readSeparated readOne close n rest = some (values, after)) :
    readSeparated readOne close (n + 1) cs = some (value :: values, after) := by
  simp [readSeparated, hread, hlater, hcomma, hmore]

theorem readSeparated_newline (readOne : List Char → Option (α × List Char)) (close : Char) (n level : Nat)
    (cs : List Char) :
    readSeparated readOne close n ((newline level).toList ++ cs) = readSeparated readOne close n cs := by
  cases n with
  | zero => rfl
  | succ n => rw [readSeparated, readSeparated, skipSpaces_newline]

end

theorem enclosed_eq (left right : String) (level : Nat) (members : List String) :
    enclosed left right level members = left ++ enclosed "" right level members := by
  unfold enclosed
  split <;> simp [String.append_assoc]

theorem Opens.joined {s : String} (h : Opens s.toList) (separator : String) (rest : List String) :
    Opens (joined separator (s :: rest)).toList := by
  cases rest with
  | nil => exact h
  | cons t rest =>
    rw [joined_cons_cons, String.append_assoc, String.toList_append]
    exact h.append _

/-- That values are read from the texts that show them, whatever follows. -/
def Reads (readOne : List Char → Option (α × List Char)) (shown : α → String) (values : List α) : Prop :=
  ∀ value ∈ values, Opens (shown value).toList ∧
    ∀ rest, EndsNumber rest → readOne ((shown value).toList ++ rest) = some (value, rest)

theorem Reads.read {readOne : List Char → Option (α × List Char)} {shown : α → String} {values : List α}
    (h : Reads readOne shown values) {value : α} (hvalue : value ∈ values) {rest : List Char}
    (hrest : EndsNumber rest) :
    readOne (skipSpaces ((shown value).toList ++ rest)) = some (value, rest) := by
  obtain ⟨hopens, hread⟩ := h value hvalue
  rw [skipSpaces_of_opens (hopens.append rest)]
  exact hread rest hrest

section
variable {readOne : List Char → Option (α × List Char)} {shown : α → String} {values : List α}
  (h : Reads readOne shown values) {close : Char} (hclose : close = ']' ∨ close = '\x7d')
include h hclose

/-- By induction on the values: behind each one stands a comma or the bracket. -/
theorem readSeparated_joined (hne : values ≠ []) (level outer : Nat) {n : Nat} (hn : values.length ≤ n)
    (rest : List Char) :
    readSeparated readOne close n ((joined ("," ++ newline level) (values.map shown)).toList ++
      ((newline outer).toList ++ close :: rest)) = some (values, rest) := by
  induction values generalizing n with
  | nil => exact absurd rfl hne
  | cons value more ih =>
    obtain ⟨n, rfl⟩ : ∃ m, n = m + 1 := Nat.exists_eq_succ_of_ne_zero (by rintro rfl; cases hn)
    cases more with
    | nil =>
      rw [List.map_singleton, joined_singleton]
      have hvalue := h.read List.mem_cons_self (endsNumber_newline outer (close :: rest))
      exact readSeparated_of_close hvalue (skipSpaces_newline_cons outer (isSpace_of_closing hclose) rest)
    | cons next more =>
      have hmore : Reads readOne shown (next :: more) := fun v hv => h v (List.mem_cons_of_mem value hv)
      have hnext := ih hmore (List.cons_ne_nil _ _) (Nat.le_of_succ_le_succ hn)
      generalize hlater : (joined ("," ++ newline level) ((next :: more).map shown)).toList ++
        ((newline outer).toList ++ close :: rest) = later at hnext
      have htext : (joined ("," ++ newline level) ((value :: next :: more).map shown)).toList ++
          ((newline outer).toList ++ close :: rest) =
            (shown value).toList ++ ',' :: ((newline level).toList ++ later) := by
        rw [← hlater, List.map_cons, List.map_cons, joined_cons_cons]
        simp
      have hcomma : ',' ≠ close := by rcases hclose with rfl | rfl <;> decide
      have hvalue := h.read List.mem_cons_self (endsNumber_cons (c := ',') rfl ((newline level).toList ++ later))
      rw [htext]
      exact readSeparated_of_comma hvalue rfl hcomma ((readSeparated_newline _ _ n level later).trans hnext)

/-- Values that are shown between brackets, each on a line of its own, are read. -/
theorem readEnclosed_enclosed (right : String) (hright : right.toList = [close]) (level : Nat) {n : Nat}
    (hn : values.length ≤ n) (rest : List Char) :
    readEnclosed readOne close n ((enclosed "" right level (values.map shown)).toList ++ rest) =
      some (values, rest) := by
  cases values with
  | nil => simp [enclosed, hright, readEnclosed, skipSpaces, isSpace_of_closing hclose]
  | cons value more =>
    have hread := readSeparated_joined h hclose (List.cons_ne_nil _ _) (level + 1) level hn rest
    generalize hlines : (joined ("," ++ newline (level + 1)) ((value :: more).map shown)).toList ++
      ((newline level).toList ++ close :: rest) = lines at hread
    have htext : (enclosed "" right level ((value :: more).map shown)).toList ++ rest =
        (newline (level + 1)).toList ++ lines := by
      rw [← hlines]
      simp [enclosed, hright]
    obtain ⟨hopens, -⟩ := h value List.mem_cons_self
    have hlinesOpen : Opens lines := hlines ▸ (hopens.joined _ _).append _
    rw [htext, readEnclosed, skipSpaces_newline, skipSpaces_of_opens hlinesOpen]
    obtain ⟨c, later, rfl, -, hbracket, hbrace⟩ := hlinesOpen
    have hc : c ≠ close := by rcases hclose with rfl | rfl <;> assumption
    simp [hc, hread]

end

end

/-! ## Values -/

theorem prettyItems_eq_map (level : Nat) (items : List Json) :
    prettyItems level items = items.map (prettyAt level) := by
  induction items with
  | nil => rfl
  | cons item rest ih => rw [prettyItems, ih, List.map_cons]

/-- A member of an object as it is shown. -/
def prettyMember (level : Nat) (member : String × Json) : String :=
  string member.1 ++ ": " ++ prettyAt level member.2

theorem prettyMembers_eq_map (level : Nat) (members : List (String × Json)) :
    prettyMembers level members = members.map (prettyMember level) := by
  induction members with
  | nil => rfl
  | cons member rest ih => rw [prettyMembers, ih, List.map_cons, prettyMember]

theorem toList_string (s : String) (rest : List Char) :
    (string s).toList ++ rest = '"' :: (s.toList.flatMap escapedChar ++ '"' :: rest) := by
  simp [string]

theorem opens_cons_of_isDigit {c : Char} (h : c.isDigit = true) (rest : List Char) : Opens (c :: rest) := by
  have hne (d : Char) (hd : d.isDigit = false) : c ≠ d := fun hcd => by simp [← hcd, h] at hd
  refine ⟨c, rest, rfl, ?_, hne _ rfl, hne _ rfl⟩
  simp only [isSpace, Bool.or_eq_false_iff, beq_eq_false_iff_ne]
  exact ⟨⟨⟨hne _ rfl, hne _ rfl⟩, hne _ rfl⟩, hne _ rfl⟩

/-- No value begins with a blank or with a bracket that closes. -/
theorem opens_prettyAt (level : Nat) (j : Json) : Opens (prettyAt level j).toList := by
  cases j with
  | null => exact ⟨'n', ['u', 'l', 'l'], by simp [prettyAt], by decide⟩
  | bool b =>
    cases b with
    | false => exact ⟨'f', ['a', 'l', 's', 'e'], by simp [prettyAt], by decide⟩
    | true => exact ⟨'t', ['r', 'u', 'e'], by simp [prettyAt], by decide⟩
  | int n =>
    rw [prettyAt, toList_toString]
    split
    · obtain ⟨c, digits, hdigits, hc⟩ := exists_toDigits_eq_cons n.toNat
      rw [hdigits]
      exact opens_cons_of_isDigit hc digits
    · exact ⟨'-', _, rfl, by decide⟩
  | text s =>
    rw [prettyAt, ← List.append_nil (string s).toList, toList_string]
    exact ⟨'"', _, rfl, by decide⟩
  | array items =>
    rw [prettyAt, enclosed_eq, String.toList_append]
    exact ⟨'[', _, rfl, by decide⟩
  | object members =>
    rw [prettyAt, enclosed_eq, String.toList_append]
    exact ⟨'\x7b', _, rfl, by decide⟩

theorem length_le_joined (separator : String) {s : String} {texts : List String} (h : s ∈ texts) :
    s.length ≤ (joined separator texts).length := by
  fun_induction joined separator texts with
  | case1 => cases h
  | case2 t => exact Nat.le_of_eq (congrArg String.length (List.mem_singleton.1 h))
  | case3 t rest hne ih =>
    rw [String.length_append, String.length_append]
    rcases List.mem_cons.1 h with rfl | h
    · omega
    · have := ih h
      omega

theorem length_le_length_joined {separator : String} (hseparator : 0 < separator.length) (texts : List String) :
    texts.length ≤ (joined separator texts).length + 1 := by
  fun_induction joined separator texts with
  | case1 => simp
  | case2 t => simp
  | case3 t rest hne ih =>
    rw [String.length_append, String.length_append, List.length_cons]
    omega

/-- What stands between brackets is shorter than all, and there are fewer members than characters. -/
theorem length_le_of_enclosed {α : Type} {shown : α → String} {values : List α} {left right : String} {level n : Nat}
    (hn : (enclosed left right level (values.map shown)).length ≤ n + 1) :
    (∀ value ∈ values, (shown value).length ≤ n) ∧ values.length ≤ n := by
  cases values with
  | nil => exact ⟨nofun, Nat.zero_le n⟩
  | cons value more =>
    generalize htexts : (value :: more).map shown = texts at hn
    have hcount : texts.length = (value :: more).length := by rw [← htexts, List.length_map]
    have hlength : (joined ("," ++ newline (level + 1)) texts).length + 3 ≤ n + 1 := by
      refine Nat.le_trans ?_ hn
      have hbreak : "\n".length = 1 := rfl
      rw [← htexts]
      simp [enclosed, newline]
      omega
    constructor
    · intro v hv
      have := length_le_joined ("," ++ newline (level + 1)) (htexts ▸ List.mem_map_of_mem hv)
      omega
    · have hseparator : 0 < ("," ++ newline (level + 1)).length := by
        rw [String.length_append]
        exact Nat.lt_of_lt_of_le Nat.one_pos (Nat.le_add_right 1 _)
      have := length_le_length_joined hseparator texts
      omega

/-- A member is read if its value is. -/
theorem readMember_prettyMember {readOne : List Char → Option (Json × List Char)} {level : Nat} (key : String)
    {j : Json} {rest : List Char} (h : readOne ((prettyAt level j).toList ++ rest) = some (j, rest)) :
    readMember readOne ((prettyMember level (key, j)).toList ++ rest) = some ((key, j), rest) := by
  have htext : (prettyMember level (key, j)).toList ++ rest =
      '"' :: (key.toList.flatMap escapedChar ++ '"' :: ':' :: ' ' :: ((prettyAt level j).toList ++ rest)) := by
    simp [prettyMember, string]
  have hcolon : skipSpaces (':' :: ' ' :: ((prettyAt level j).toList ++ rest)) =
      ':' :: ' ' :: ((prettyAt level j).toList ++ rest) := rfl
  have hvalue : skipSpaces (' ' :: ((prettyAt level j).toList ++ rest)) = (prettyAt level j).toList ++ rest :=
    skipSpaces_of_opens ((opens_prettyAt level j).append rest)
  rw [htext, readMember, readString_flatMap_escapedChar]
  simp [hcolon, hvalue, h]

theorem opens_prettyMember (level : Nat) (key : String) (j : Json) : Opens (prettyMember level (key, j)).toList := by
  rw [prettyMember, String.append_assoc, String.toList_append, toList_string]
  exact ⟨'"', _, rfl, by decide⟩

theorem length_le_prettyMember (level : Nat) (key : String) (j : Json) :
    (prettyAt level j).length ≤ (prettyMember level (key, j)).length := by
  rw [prettyMember, String.length_append]
  exact Nat.le_add_left _ _

/-- A number begins with its sign or with a digit. -/
theorem exists_toString_eq_cons (n : Int) :
    ∃ c cs, (toString n).toList = c :: cs ∧ (c = '-' ∨ c.isDigit = true) := by
  rw [toList_toString]
  split
  · obtain ⟨c, digits, hdigits, hc⟩ := exists_toDigits_eq_cons n.toNat
    exact ⟨c, digits, hdigits, .inr hc⟩
  · exact ⟨'-', _, rfl, .inl rfl⟩

/-- A text that begins like a number is read as one. -/
theorem readValue_succ_of_int (n : Nat) {c : Char} (hc : c = '-' ∨ c.isDigit = true) (cs : List Char) :
    readValue (n + 1) (c :: cs) = (readInt (c :: cs)).map fun (m, after) => (.int m, after) := by
  have hne (d : Char) (hd : d.isDigit = false ∧ d ≠ '-') : c ≠ d := by
    rintro rfl
    rcases hc with rfl | hc
    · exact hd.2 rfl
    · rw [hd.1] at hc
      cases hc
  rw [readValue]
  all_goals
    intro rest h
    exact hne _ (by decide) (List.cons.inj h).1

/-- A value at any level is read up to what follows it.  By induction on its length: what stands between brackets is
shorter than the whole. -/
theorem readValue_prettyAt {n : Nat} (j : Json) (level : Nat) (hn : (prettyAt level j).length ≤ n) {rest : List Char}
    (hrest : EndsNumber rest) : readValue n ((prettyAt level j).toList ++ rest) = some (j, rest) := by
  induction n generalizing j level rest with
  | zero =>
    obtain ⟨c, more, h, -⟩ := opens_prettyAt level j
    have hlength := congrArg List.length h
    rw [String.length_toList, List.length_cons] at hlength
    omega
  | succ n ih =>
    cases j with
    | null => simp [prettyAt, readValue]
    | bool b => cases b <;> simp [prettyAt, readValue]
    | int m =>
      have hread := readInt_toString m hrest
      obtain ⟨c, cs, hcs, hc⟩ := exists_toString_eq_cons m
      rw [hcs, List.cons_append] at hread
      rw [prettyAt, hcs, List.cons_append, readValue_succ_of_int n hc, hread]
      rfl
    | text s =>
      rw [prettyAt, toList_string, readValue, readString_flatMap_escapedChar]
      rfl
    | array items =>
      rw [prettyAt, prettyItems_eq_map] at hn ⊢
      obtain ⟨hlength, hcount⟩ := length_le_of_enclosed hn
      have hitems : Reads (readValue n) (prettyAt (level + 1)) items :=
        fun item hitem => ⟨opens_prettyAt _ _, fun rest hrest => ih item (level + 1) (hlength item hitem) hrest⟩
      have hread := readEnclosed_enclosed hitems (.inl rfl) "]" (by simp) level hcount rest
      rw [enclosed_eq, String.toList_append, List.append_assoc]
      simp [readValue, hread]
    | object members =>
      rw [prettyAt, prettyMembers_eq_map] at hn ⊢
      obtain ⟨hlength, hcount⟩ := length_le_of_enclosed hn
      have hmembers : Reads (readMember (readValue n)) (prettyMember (level + 1)) members := by
        rintro ⟨key, value⟩ hmember
        have hvalue : (prettyAt (level + 1) value).length ≤ n :=
          Nat.le_trans (length_le_prettyMember (level + 1) key value) (hlength _ hmember)
        refine ⟨opens_prettyMember _ _ _, fun rest hrest => ?_⟩
        exact readMember_prettyMember key (ih value (level + 1) hvalue hrest)
      have hread := readEnclosed_enclosed hmembers (.inr rfl) "\x7d" (by simp) level hcount rest
      rw [enclosed_eq, String.toList_append, List.append_assoc]
      simp [readValue, hread]

/-- What is written over several lines can be read back. -/
theorem read?_pretty (j : Json) : read? (j.pretty ++ "\n") = some j := by
  have hlength : (prettyAt 0 j).length ≤ (prettyAt 0 j ++ "\n").length := by
    rw [String.length_append]
    exact Nat.le_add_right _ _
  have hread := readValue_prettyAt j 0 hlength (endsNumber_cons (c := '\n') rfl [])
  have htext : (j.pretty ++ "\n").toList = j.pretty.toList ++ ['\n'] := by simp
  have hopens : Opens (j.pretty.toList ++ ['\n']) := (opens_prettyAt 0 j).append _
  rw [read?, htext, skipSpaces_of_opens hopens, pretty, hread]
  rfl

/-- The text of a value determines it. -/
theorem pretty_injective : Function.Injective pretty := by
  intro j j' h
  have hread := read?_pretty j
  rw [h, read?_pretty] at hread
  exact (Option.some.inj hread).symm

end FullText.Json
