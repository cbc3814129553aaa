import FullText.Sql.Print

/-!
# Printed SQL with the text of a query left open

The pieces of a printed statement are fixed but for the constants that are the text of a query.

* `readLiteral` reads a literal by the rule of SQL; `readLiteral_inlined` says that it stops where the literal ends.
* `openBounds` are the constants that are left open, and `Fragment.filled text` puts a text in their place.
* `parametrised_filled` — with parameters, the SQL does not change at all; `parameters_filled` — of the parameters, only
  the open ones take the new value; `inlined_filled` — with constants written out, copies of one literal stand between
  fixed `pieces`.
* `readLiteral_joined_pieces` — if a parenthesis closes behind every open constant (`Closing`), each of the literals is
  read back up to the piece behind it.
-/

namespace FullText.Sql

open Text

/-! ## Reading a literal -/

/-- The text of a literal up to the apostrophe that ends it, and what follows; two apostrophes are one. -/
def readLiteralBody : List Char → Option (List Char × List Char)
  | '\'' :: '\'' :: rest => (readLiteralBody rest).map fun (text, after) => ('\'' :: text, after)
  | '\'' :: rest => some ([], rest)
  | c :: rest => (readLiteralBody rest).map fun (text, after) => (c :: text, after)
  | [] => none

/-- The text of a literal, and what follows it. -/
def readLiteral : List Char → Option (List Char × List Char)
  | '\'' :: rest => readLiteralBody rest
  | _ => none

theorem readLiteralBody_cons_of_ne {c : Char} (h : c ≠ '\'') (rest : List Char) :
    readLiteralBody (c :: rest) = (readLiteralBody rest).map fun (text, after) => (c :: text, after) := by
  rw [readLiteralBody] <;> simp_all

theorem readLiteralBody_end {rest : List Char} (h : rest.head? ≠ some '\'') :
    readLiteralBody ('\'' :: rest) = some ([], rest) := by
  cases rest with
  | nil => rfl
  | cons d rest =>
    have hd : d ≠ '\'' := by simpa using h
    rw [readLiteralBody]
    simp [hd]

theorem doubling_cons (twice : Char → Bool) (c : Char) (cs : List Char) :
    doubling twice (c :: cs) = (if twice c then [c, c] else [c]) ++ doubling twice cs := rfl

/-- A literal is read as far as it goes, if its text has no percent sign and no apostrophe follows. -/
theorem readLiteral_quotedText {cs rest : List Char} (hcs : '%' ∉ cs) (h : rest.head? ≠ some '\'') :
    readLiteral (Literal.quotedText cs ++ rest) = some (cs, rest) := by
  have hbody : readLiteralBody (doubling (fun c => c = '\'' || c = '%') cs ++ '\'' :: rest) = some (cs, rest) := by
    induction cs with
    | nil => exact readLiteralBody_end h
    | cons c cs ih =>
      have hc : c ≠ '%' := fun hc => hcs (hc ▸ List.mem_cons_self)
      have ih := ih fun hmem => hcs (List.mem_cons_of_mem c hmem)
      rw [doubling_cons, List.append_assoc]
      by_cases hq : c = '\''
      · subst hq
        simp [readLiteralBody, ih]
      · simp [hq, hc, readLiteralBody_cons_of_ne, ih]
  simpa [Literal.quotedText, readLiteral] using hbody

theorem readLiteral_inlined {text rest : String} (ht : '%' ∉ text.toList) (h : rest.toList.head? ≠ some '\'') :
    readLiteral ((Literal.text text).inlined ++ rest).toList = some (text.toList, rest.toList) := by
  rw [String.toList_append, Literal.inlined, String.toList_ofList]
  exact readLiteral_quotedText ht h

/-! ## The open constants -/

/-- The constant with a text in its place, if it is the text of a query. -/
def Bound.filled (text : String) (b : Bound) : Bound :=
  if b.slot.role = .queryText then { b with value := .text text } else b

@[simp] theorem Bound.slot_filled (text : String) (b : Bound) : (b.filled text).slot = b.slot := by
  unfold filled
  split <;> rfl

@[simp] theorem Bound.type_filled (text : String) (b : Bound) : (b.filled text).type = b.type := by
  unfold filled
  split <;> rfl

theorem Bound.value_filled {b : Bound} (h : b.slot.role = .queryText) (text : String) :
    (b.filled text).value = .text text := by
  rw [filled, if_pos h]

namespace Fragment

/-- Whether a piece is the text of a query. -/
def isOpen : Fragment → Bool
  | .bound b => b.slot.role == .queryText
  | _ => false

/-- The piece with a text in its place, if it is the text of a query. -/
def filled (text : String) : Fragment → Fragment
  | .bound b => .bound (b.filled text)
  | f => f

theorem filled_of_not_isOpen {text : String} {f : Fragment} (h : f.isOpen = false) : f.filled text = f := by
  cases f with
  | bound b =>
    have hb : b.slot.role ≠ .queryText := by simpa [isOpen] using h
    rw [filled, Bound.filled, if_neg hb]
  | _ => rfl

@[simp] theorem symbol?_filled (text : String) (f : Fragment) : (f.filled text).symbol? = f.symbol? := by
  cases f <;> simp [filled, symbol?]

@[simp] theorem bound?_filled (text : String) (f : Fragment) :
    (f.filled text).bound? = f.bound?.map (Bound.filled text) := by
  cases f <;> rfl

@[simp] theorem parametrised_filled (text : String) (names : List Symbol) (f : Fragment) :
    (f.filled text).parametrised names = f.parametrised names := by
  cases f <;> simp [filled, parametrised]

end Fragment

/-- That no piece is the text of a query. -/
def Fixed (fragments : List Fragment) : Prop := ∀ f ∈ fragments, f.isOpen = false

@[simp] theorem fixed_nil : Fixed [] := by simp [Fixed]

@[simp] theorem fixed_cons {f : Fragment} {rest : List Fragment} :
    Fixed (f :: rest) ↔ f.isOpen = false ∧ Fixed rest := List.forall_mem_cons

@[simp] theorem fixed_append {fragments more : List Fragment} :
    Fixed (fragments ++ more) ↔ Fixed fragments ∧ Fixed more := List.forall_mem_append

theorem Fixed.map_filled {fragments : List Fragment} (h : Fixed fragments) (text : String) :
    fragments.map (Fragment.filled text) = fragments := by
  have hid : fragments.map (Fragment.filled text) = fragments.map id :=
    List.map_congr_left fun f hf => Fragment.filled_of_not_isOpen (h f hf)
  rw [hid, List.map_id]

/-- The constants that are the text of a query. -/
def openBounds (fragments : List Fragment) : List Bound :=
  (fragments.filterMap Fragment.bound?).filter (·.slot.role = .queryText)

@[simp] theorem openBounds_nil : openBounds [] = [] := rfl

@[simp] theorem openBounds_append (fragments more : List Fragment) :
    openBounds (fragments ++ more) = openBounds fragments ++ openBounds more := by
  simp [openBounds]

@[simp] theorem openBounds_sql (s : String) (rest : List Fragment) :
    openBounds (.sql s :: rest) = openBounds rest := rfl

theorem role_of_mem_openBounds {b : Bound} {fragments : List Fragment} (h : b ∈ openBounds fragments) :
    b.slot.role = .queryText := by
  simpa using (List.mem_filter.1 h).2

theorem openBounds_cons_of_isOpen {b : Bound} (h : (Fragment.bound b).isOpen = true) (rest : List Fragment) :
    openBounds (.bound b :: rest) = b :: openBounds rest := by
  have hb : b.slot.role = .queryText := by simpa [Fragment.isOpen] using h
  simp [openBounds, Fragment.bound?, hb]

theorem openBounds_cons_of_not_isOpen {f : Fragment} (h : f.isOpen = false) (rest : List Fragment) :
    openBounds (f :: rest) = openBounds rest := by
  cases f with
  | bound b =>
    have hb : b.slot.role ≠ .queryText := by simpa [Fragment.isOpen] using h
    simp [openBounds, Fragment.bound?, hb]
  | _ => rfl

theorem Fixed.openBounds_eq {fragments : List Fragment} (h : Fixed fragments) : openBounds fragments = [] := by
  induction fragments with
  | nil => rfl
  | cons f rest ih =>
    rw [fixed_cons] at h
    rw [openBounds_cons_of_not_isOpen h.1, ih h.2]

/-! ## Printing with the open constants filled in -/

section
variable (text : String) (fragments : List Fragment)

@[simp] theorem symbols_filled : symbols (fragments.map (Fragment.filled text)) = symbols fragments := by
  have hsymbol : Fragment.symbol? ∘ Fragment.filled text = Fragment.symbol? := funext (Fragment.symbol?_filled text)
  rw [symbols, symbols, List.filterMap_map, hsymbol]

theorem filterMap_bound?_filled :
    (fragments.map (Fragment.filled text)).filterMap Fragment.bound? =
      (fragments.filterMap Fragment.bound?).map (Bound.filled text) := by
  have hbound : Fragment.bound? ∘ Fragment.filled text = fun f => f.bound?.map (Bound.filled text) :=
    funext (Fragment.bound?_filled text)
  rw [List.filterMap_map, hbound, List.map_filterMap]

@[simp] theorem slots_filled : slots (fragments.map (Fragment.filled text)) = slots fragments := by
  rw [slots, slots, filterMap_bound?_filled, List.map_map]
  simp [Function.comp_def]

theorem openBounds_filled :
    openBounds (fragments.map (Fragment.filled text)) = (openBounds fragments).map (Bound.filled text) := by
  rw [openBounds, openBounds, filterMap_bound?_filled, List.filter_map]
  simp [Function.comp_def]

/-- With parameters, the SQL is the same for every text. -/
theorem parametrised_filled : parametrised (fragments.map (Fragment.filled text)) = parametrised fragments := by
  simp [parametrised, Function.comp_def]

end

/-- The parameters, without a value for those that stand for the text of a query. -/
def openParameters (fragments : List Fragment) : List (String × Option Literal) :=
  (slots fragments).filterMap fun slot =>
    ((fragments.filterMap Fragment.bound?).find? (·.slot == slot)).map fun b =>
      (parameterName (symbols fragments) slot, if b.slot.role = .queryText then none else some b.value)

/-- Only the open parameters take a new value. -/
theorem parameters_filled (text : String) (fragments : List Fragment) :
    parameters (fragments.map (Fragment.filled text)) =
      (openParameters fragments).map fun (name, value) => (name, value.getD (.text text)) := by
  unfold parameters openParameters
  rw [slots_filled, symbols_filled, filterMap_bound?_filled]
  generalize fragments.filterMap Fragment.bound? = bounds
  rw [List.map_filterMap]
  congr 1
  funext slot
  rw [List.find?_map, Option.map_map, Option.map_map]
  have hslot : (fun b : Bound => b.slot == slot) ∘ Bound.filled text = fun b => b.slot == slot := by
    funext b
    simp
  rw [hslot]
  congr 1
  funext b
  by_cases hb : b.slot.role = .queryText <;> simp [Bound.filled, hb]

theorem mem_slots {fragments : List Fragment} {slot : Slot} :
    slot ∈ slots fragments ↔ ∃ b ∈ fragments.filterMap Fragment.bound?, b.slot = slot := by
  rw [slots, List.mem_eraseDups, List.mem_map]

/-- The parameters without a value are those that stand for the text of a query. -/
theorem mem_openParameters {fragments : List Fragment} {name : String} :
    (name, none) ∈ openParameters fragments ↔
      ∃ b ∈ openBounds fragments, parameterName (symbols fragments) b.slot = name := by
  unfold openParameters openBounds
  generalize hbounds : fragments.filterMap Fragment.bound? = bounds
  simp only [List.mem_filterMap, Option.map_eq_some_iff, List.mem_filter, mem_slots, hbounds, decide_eq_true_eq]
  constructor
  · rintro ⟨slot, -, b, hb, hname⟩
    have hslot : b.slot = slot := by simpa using List.find?_some hb
    rw [Prod.mk.injEq, ite_eq_left_iff] at hname
    exact ⟨b, ⟨List.mem_of_find?_eq_some hb, by simpa using hname.2⟩, hslot ▸ hname.1⟩
  · rintro ⟨b, ⟨hb, hrole⟩, hname⟩
    -- the place may have been met before, but then with the same role
    obtain ⟨first, hfirst⟩ : ∃ first, bounds.find? (·.slot == b.slot) = some first := by
      rw [← Option.isSome_iff_exists, List.find?_isSome]
      exact ⟨b, hb, by simp⟩
    have hslot : first.slot = b.slot := by simpa using List.find?_some hfirst
    exact ⟨b.slot, ⟨b, hb, rfl⟩, first, hfirst, by simp [hslot, hrole, hname]⟩

/-- Texts with one more text before the first. -/
def prepended (s : String) : List String → List String
  | [] => [s]
  | t :: rest => (s ++ t) :: rest

/-- The SQL between the open constants, with the other constants written out. -/
def pieces (names : List Symbol) : List Fragment → List String
  | [] => [""]
  | f :: rest => if f.isOpen then "" :: pieces names rest else prepended (f.inlined names) (pieces names rest)

theorem prepended_ne_nil (s : String) (texts : List String) : prepended s texts ≠ [] := by
  cases texts <;> simp [prepended]

theorem pieces_ne_nil (names : List Symbol) (fragments : List Fragment) : pieces names fragments ≠ [] := by
  cases fragments with
  | nil => simp [pieces]
  | cons f rest =>
    rw [pieces]
    split
    · simp
    · exact prepended_ne_nil _ _

theorem joined_prepended (separator s : String) (texts : List String) :
    joined separator (prepended s texts) = s ++ joined separator texts := by
  rcases texts with _ | ⟨t, _ | ⟨u, rest⟩⟩
  · simp [prepended]
  · rfl
  · simp [prepended, joined_cons_cons, String.append_assoc]

theorem join_inlined_filled (text : String) (names : List Symbol) (fragments : List Fragment) :
    String.join ((fragments.map (Fragment.filled text)).map (Fragment.inlined names)) =
      joined (Literal.text text).inlined (pieces names fragments) := by
  induction fragments with
  | nil => simp [pieces]
  | cons f rest ih =>
    rw [List.map_cons, List.map_cons, String.join_cons, ih, pieces]
    split
    · next h =>
      obtain ⟨p, ps, hp⟩ := List.exists_cons_of_ne_nil (pieces_ne_nil names rest)
      rw [hp, joined_cons_cons, String.empty_append]
      cases f with
      | bound b => 
        have hb : b.slot.role = .queryText := by simpa [Fragment.isOpen] using h
        rw [Fragment.filled, Bound.filled, if_pos hb, Fragment.inlined]
      | _ => cases h
    · next h => rw [Fragment.filled_of_not_isOpen (by simpa using h), joined_prepended]

/-- With constants written out, copies of one literal stand between fixed pieces. -/
theorem inlined_filled (text : String) (fragments : List Fragment) :
    inlined (fragments.map (Fragment.filled text)) =
      joined (Literal.text text).inlined (pieces (symbols fragments) fragments) := by
  rw [inlined, symbols_filled, join_inlined_filled]

/-! ## What stands behind an open constant -/

/-- Behind every open constant a parenthesis closes. -/
def Closing : List Fragment → Prop
  | [] => True
  | f :: rest => (f.isOpen = true → rest.head? = some (.sql ")")) ∧ Closing rest

theorem Fixed.closing {fragments : List Fragment} (h : Fixed fragments) : Closing fragments := by
  induction fragments with
  | nil => trivial
  | cons f rest ih =>
    rw [fixed_cons] at h
    exact ⟨fun hf => by simp [h.1] at hf, ih h.2⟩

theorem Closing.append {fragments more : List Fragment} (h : Closing fragments) (hmore : Closing more) :
    Closing (fragments ++ more) := by
  induction fragments with
  | nil => exact hmore
  | cons f rest ih =>
    rw [List.cons_append]
    refine ⟨fun hf => ?_, ih h.2⟩
    rw [List.head?_append, h.1 hf, Option.some_or]

theorem Closing.cons {f : Fragment} {rest : List Fragment} (hf : f.isOpen = false) (h : Closing rest) :
    Closing (f :: rest) :=
  ⟨fun ho => by simp [hf] at ho, h⟩

theorem tail_prepended (s : String) (texts : List String) : (prepended s texts).tail = texts.tail := by
  cases texts <;> rfl

theorem head?_of_mem_tail_pieces {names : List Symbol} {fragments : List Fragment} (h : Closing fragments) {p : String}
    (hp : p ∈ (pieces names fragments).tail) : p.toList.head? = some ')' := by
  induction fragments with
  | nil => simp [pieces] at hp
  | cons f rest ih =>
    rw [pieces] at hp
    split at hp
    · next hf =>
      -- the first piece behind the constant begins with the parenthesis, `ih` has the others
      obtain ⟨more, rfl⟩ : ∃ more, rest = .sql ")" :: more := by
        cases rest with
        | nil => simpa using h.1 hf
        | cons g more => exact ⟨more, by simpa using h.1 hf⟩
      rw [List.tail_cons, pieces, if_neg (by simp [Fragment.isOpen]), Fragment.inlined] at hp
      rw [pieces, if_neg (by simp [Fragment.isOpen]), Fragment.inlined, tail_prepended] at ih
      rcases hps : pieces names more with _ | ⟨q, qs⟩
      · exact absurd hps (pieces_ne_nil names more)
      · rw [hps] at hp ih
        rcases List.mem_cons.1 hp with rfl | hp
        · simp
        · exact ih h.2 hp
    · rw [tail_prepended] at hp
      exact ih h.2 hp

/-- A literal ends where the next piece begins. -/
theorem readLiteral_joined_pieces {text : String} (ht : '%' ∉ text.toList) {names : List Symbol}
    {fragments : List Fragment} (h : Closing fragments) {before after : List String}
    (hpieces : pieces names fragments = before ++ after) (hbefore : before ≠ []) (hafter : after ≠ []) :
    readLiteral ((Literal.text text).inlined ++ joined (Literal.text text).inlined after).toList =
      some (text.toList, (joined (Literal.text text).inlined after).toList) := by
  obtain ⟨first, before, rfl⟩ := List.exists_cons_of_ne_nil hbefore
  obtain ⟨p, rest, rfl⟩ := List.exists_cons_of_ne_nil hafter
  have hmem : p ∈ (pieces names fragments).tail := by simp [hpieces]
  have hp : p.toList.head? = some ')' := head?_of_mem_tail_pieces h hmem
  have hhead : (joined (Literal.text text).inlined (p :: rest)).toList.head? = some ')' := by
    cases rest with
    | nil => exact hp
    | cons q rest =>
      rw [joined_cons_cons, String.append_assoc, String.toList_append, List.head?_append, hp, Option.some_or]
  exact readLiteral_inlined ht (by simp [hhead])

theorem length_prepended (s : String) {texts : List String} (h : texts ≠ []) :
    (prepended s texts).length = texts.length := by
  obtain ⟨t, rest, rfl⟩ := List.exists_cons_of_ne_nil h
  rfl

/-- There is one more piece than there are open constants. -/
theorem length_pieces (names : List Symbol) (fragments : List Fragment) :
    (pieces names fragments).length = (openBounds fragments).length + 1 := by
  induction fragments with
  | nil => rfl
  | cons f rest ih =>
    rw [pieces]
    split
    · next hf =>
      cases f with
      | bound b => rw [List.length_cons, ih, openBounds_cons_of_isOpen hf, List.length_cons]
      | _ => cases hf
    · next hf =>
      rw [length_prepended _ (pieces_ne_nil names rest), ih, openBounds_cons_of_not_isOpen (by simpa using hf)]

/-! ## Lists of parts -/

theorem fixed_separated {separator : String} {parts : List (List Fragment)} (h : ∀ part ∈ parts, Fixed part) :
    Fixed (separated separator parts) := by
  fun_induction separated separator parts with
  | case1 => simp
  | case2 part => exact h part List.mem_cons_self
  | case3 part rest hne ih =>
    rw [List.forall_mem_cons] at h
    simp [h.1, ih h.2, Fragment.isOpen]

theorem closing_separated {separator : String} {parts : List (List Fragment)} (h : ∀ part ∈ parts, Closing part) :
    Closing (separated separator parts) := by
  fun_induction separated separator parts with
  | case1 => trivial
  | case2 part => exact h part List.mem_cons_self
  | case3 part rest hne ih =>
    exact (h part List.mem_cons_self).append (.cons rfl (ih fun q hq => h q (List.mem_cons_of_mem part hq)))

theorem map_filled_separated (text separator : String) (parts : List (List Fragment)) :
    (separated separator parts).map (Fragment.filled text) =
      separated separator (parts.map (List.map (Fragment.filled text))) := by
  fun_induction separated separator parts with
  | case1 => rfl
  | case2 part => rfl
  | case3 part rest hne ih =>
    rw [List.map_append, List.map_cons, ih]
    cases rest with
    | nil => exact absurd rfl hne
    | cons q more => rfl

theorem openBounds_separated (separator : String) (parts : List (List Fragment)) :
    openBounds (separated separator parts) = parts.flatMap openBounds := by
  fun_induction separated separator parts with
  | case1 => rfl
  | case2 part => simp
  | case3 part rest hne ih =>
    rw [openBounds_append, openBounds_sql, ih, List.flatMap_cons]

theorem fixed_selectFragments {parts : List (List Fragment)} (h : ∀ part ∈ parts, Fixed part) :
    Fixed (selectFragments parts) := by
  unfold selectFragments
  split
  · simp [Fragment.isOpen]
  · simp [Fragment.isOpen, fixed_separated h]

theorem map_filled_selectFragments (text : String) (parts : List (List Fragment)) :
    (selectFragments parts).map (Fragment.filled text) =
      selectFragments (parts.map (List.map (Fragment.filled text))) := by
  cases parts with
  | nil => rfl
  | cons part rest =>
    rw [selectFragments, List.map_cons, map_filled_separated]
    · rfl
    · simp

theorem closing_selectFragments {parts : List (List Fragment)} (h : ∀ part ∈ parts, Closing part) :
    Closing (selectFragments parts) := by
  unfold selectFragments
  split
  · exact .cons rfl trivial
  · exact .cons rfl (closing_separated h)

theorem openBounds_selectFragments (parts : List (List Fragment)) :
    openBounds (selectFragments parts) = parts.flatMap openBounds := by
  unfold selectFragments
  split
  · rfl
  · rw [openBounds_sql, openBounds_separated]

/-! ## Another text in the open places -/

/-- That two lists of pieces differ in the open constants only, which are `texts` in the second and hold a text
there. -/
structure Retexted (text : String) (fragments fragments' : List Fragment) (texts : List Bound) : Prop where
  map_filled : fragments.map (Fragment.filled text) = fragments'
  closing : Closing fragments
  openBounds_eq : openBounds fragments' = texts

section
variable {text : String} {fragments fragments' more more' : List Fragment} {texts moreTexts : List Bound}

theorem Fixed.retexted (h : Fixed fragments) : Retexted text fragments fragments [] where
  map_filled := h.map_filled text
  closing := h.closing
  openBounds_eq := h.openBounds_eq

theorem Retexted.append (h : Retexted text fragments fragments' texts) (hmore : Retexted text more more' moreTexts) :
    Retexted text (fragments ++ more) (fragments' ++ more') (texts ++ moreTexts) where
  map_filled := by rw [List.map_append, h.map_filled, hmore.map_filled]
  closing := h.closing.append hmore.closing
  openBounds_eq := by rw [openBounds_append, h.openBounds_eq, hmore.openBounds_eq]

theorem Retexted.sql (h : Retexted text fragments fragments' texts) (s : String) :
    Retexted text (.sql s :: fragments) (.sql s :: fragments') texts where
  map_filled := by
    rw [List.map_cons, h.map_filled]
    rfl
  closing := .cons rfl h.closing
  openBounds_eq := by rw [openBounds_sql, h.openBounds_eq]

theorem retexted_nil : Retexted text [] [] [] := fixed_nil.retexted

end

end FullText.Sql
