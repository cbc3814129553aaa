import FullText.Proofs.Options.Reachable

/-!
# Options field by field

What options hold, what a layer sets and what a check makes of a value, each as a loose value, so that the eight fields
can be spoken of at once.

* `Options.value`, `Layer.value?` — the fields of options and of layers; `Options.ext_value` and `Layer.ext_value?` say
  that nothing else belongs to them.
* `OptionField.check` — what a layer takes over from a value that it is given for a field.
* `OptionField.required` — the options that a layer may not make null, by `Layer.nulls_eq_true`.
* `Layer.value_apply`, `Layer.value?_above`, `Layer.value?_given` — laying on, laying one layer over another and reading
  entries, field by field.
-/

namespace FullText

/-! ## Values that may be missing -/

namespace Value

/-- A value that may be missing, as a loose value. -/
def nullOr {α : Type} (toValue : α → Value) : Option α → Value
  | none => .null
  | some x => toValue x

/-- A whole number that is not negative, as a loose value. -/
def ofNat (n : Nat) : Value := .int n

/-- Columns as a loose value. -/
def ofColumns (cs : List Column) : Value := .tuple (cs.map .column)

theorem ofColumns_injective : Function.Injective ofColumns := by
  intro cs cs' h
  have hcolumn : Function.Injective Value.column := fun _ _ hc => Value.column.inj hc
  exact hcolumn.list_map (Value.tuple.inj h)

theorem nullOr_injective {α : Type} {toValue : α → Value} (hinj : Function.Injective toValue)
    (hnull : ∀ x, toValue x ≠ .null) : Function.Injective (nullOr toValue) := by
  intro x y h
  cases x with
  | none =>
    cases y with
    | none => rfl
    | some b => exact absurd h.symm (hnull b)
  | some a =>
    cases y with
    | none => exact absurd h (hnull a)
    | some b => exact congrArg some (hinj h)

theorem nullOr_text_injective : Function.Injective (nullOr Value.text) :=
  nullOr_injective (fun _ _ h => Value.text.inj h) fun _ h => by cases h

theorem nullOr_ofColumns_injective : Function.Injective (nullOr ofColumns) :=
  nullOr_injective ofColumns_injective fun _ h => by cases h

end Value

/-! ## The fields of options -/

namespace Options

/-- What options hold for a field. -/
def value (o : Options) : OptionField → Value
  | .scopeName => .nullOr .text o.scopeName
  | .wildcard => .wildcard o.wildcard
  | .operator => .operator o.operator
  | .normalization => .ofNat o.normalization
  | .selectRank => .bool o.selectRank
  | .language => .text o.language
  | .rankFunction => .rankFunction o.rankFunction
  | .rankColumns => .nullOr .ofColumns o.rankColumns

theorem ext_value {o o' : Options} (h : ∀ f, o.value f = o'.value f) : o = o' := by
  obtain ⟨name, w, op, n, b, lang, fn, cs⟩ := o
  obtain ⟨name', w', op', n', b', lang', fn', cs'⟩ := o'
  have hname : name = name' := Value.nullOr_text_injective (h .scopeName)
  have hcs : cs = cs' := Value.nullOr_ofColumns_injective (h .rankColumns)
  have hn : n = n' := Int.ofNat.inj (Value.int.inj (h .normalization))
  rw [Options.mk.injEq]
  exact ⟨hname, Value.wildcard.inj (h .wildcard), Value.operator.inj (h .operator), hn, Value.bool.inj (h .selectRank),
    Value.text.inj (h .language), Value.rankFunction.inj (h .rankFunction), hcs⟩

end Options

/-! ## The fields of layers -/

/-- The options that may not be null. -/
def OptionField.required : List OptionField := [.operator, .normalization, .selectRank, .language, .rankFunction]

namespace Layer

/-- What a layer sets a field to. -/
def value? (l : Layer) : OptionField → Option Value
  | .scopeName => l.scopeName.map (.nullOr .text)
  | .wildcard => l.wildcard.map .wildcard
  | .operator => l.operator.map (.nullOr .operator)
  | .normalization => l.normalization.map (.nullOr .ofNat)
  | .selectRank => l.selectRank.map (.nullOr .bool)
  | .language => l.language.map (.nullOr .text)
  | .rankFunction => l.rankFunction.map (.nullOr .rankFunction)
  | .rankColumns => l.rankColumns.map (.nullOr .ofColumns)

theorem value?_above (upper lower : Layer) (f : OptionField) :
    (upper.above lower).value? f = (upper.value? f).or (lower.value? f) := by
  cases f <;> exact Option.map_or

/-- A layer makes null what it sets to null and may not be. -/
theorem nulls_eq_true {l : Layer} {f : OptionField} :
    l.nulls f = true ↔ f ∈ OptionField.required ∧ l.value? f = some .null := by
  have hset {α : Type} [DecidableEq α] (toValue : α → Value) (hnull : ∀ a, toValue a ≠ .null)
      (x : Option (Option α)) : (x == some none) = true ↔ x.map (Value.nullOr toValue) = some .null := by
    rcases x with _ | _ | a <;> simp [Value.nullOr, hnull]
  cases f with
  | scopeName | wildcard | rankColumns => simp [nulls, OptionField.required]
  | operator => exact (hset .operator (fun _ h => by cases h) _).trans (and_iff_right (by decide)).symm
  | normalization => exact (hset .ofNat (fun _ h => by cases h) _).trans (and_iff_right (by decide)).symm
  | selectRank => exact (hset .bool (fun _ h => by cases h) _).trans (and_iff_right (by decide)).symm
  | language => exact (hset .text (fun _ h => by cases h) _).trans (and_iff_right (by decide)).symm
  | rankFunction => exact (hset .rankFunction (fun _ h => by cases h) _).trans (and_iff_right (by decide)).symm

/-- A layer without nulls puts what it sets in the place of what lies below. -/
theorem value_apply {l : Layer} (h : l.firstNull? = none) (o : Options) (f : OptionField) :
    (l.apply o).value f = (l.value? f).getD (o.value f) := by
  have hnulls := firstNull?_eq_none.1 h
  have hset {α : Type} (toValue : α → Value) {x : Option (Option α)} {a : α} (hx : x ≠ some none) :
      toValue ((x.getD none).getD a) = (x.map (Value.nullOr toValue)).getD (toValue a) := by
    rcases x with _ | _ | x
    · rfl
    · exact absurd rfl hx
    · rfl
  have hkeep {α : Type} (toValue : α → Value) (x : Option α) (a : α) :
      toValue (x.getD a) = (x.map toValue).getD (toValue a) := by
    cases x <;> rfl
  cases f with
  | scopeName => exact hkeep (.nullOr .text) l.scopeName o.scopeName
  | wildcard => exact hkeep .wildcard l.wildcard o.wildcard
  | rankColumns => exact hkeep (.nullOr .ofColumns) l.rankColumns o.rankColumns
  | operator => exact hset .operator (ne_of_beq_false (hnulls .operator))
  | normalization => exact hset .ofNat (ne_of_beq_false (hnulls .normalization))
  | selectRank => exact hset .bool (ne_of_beq_false (hnulls .selectRank))
  | language => exact hset .text (ne_of_beq_false (hnulls .language))
  | rankFunction => exact hset .rankFunction (ne_of_beq_false (hnulls .rankFunction))

end Layer

/-! ## What a check makes of a value -/

namespace OptionField

/-- What a layer takes over from a value that it is given for a field. -/
def check (f : OptionField) (v : Value) : Except Refusal Value :=
  match f with
  | .scopeName => (checkScopeName v).map (.nullOr .text)
  | .wildcard => (checkWildcard v).map .wildcard
  | .operator => (orNull checkOperator v).map (.nullOr .operator)
  | .normalization => (orNull checkNormalization v).map (.nullOr .ofNat)
  | .selectRank => (orNull checkSelectRank v).map (.nullOr .bool)
  | .language => (orNull checkLanguage v).map (.nullOr .text)
  | .rankFunction => (orNull checkRankFunction v).map (.nullOr .rankFunction)
  | .rankColumns => (checkRankColumns v).map (.nullOr .ofColumns)

section
variable {α β : Type} {check : Value → Except Refusal α}

theorem refusalOf_map (toValue : α → β) (outcome : Except Refusal α) :
    refusalOf (outcome.map toValue) = refusalOf outcome := by
  cases outcome <;> rfl

theorem refusalOf_orNull (check : Value → Except Refusal α) (v : Value) :
    refusalOf (orNull check v) = if v.isNull then none else refusalOf (check v) := by
  unfold orNull
  split
  · rfl
  · exact refusalOf_map some (check v)

/-- What accepts null need not be told to. -/
theorem refusalOf_of_null {x : α} (h : check .null = .ok x) (v : Value) :
    refusalOf (check v) = if v.isNull then none else refusalOf (check v) := by
  cases v with
  | null => rw [h]; rfl
  | _ => rfl

theorem map_read (f : OptionField) (toValue : α → β) (entries : Entries) :
    (f.read check entries).map toValue =
      (f.given? entries).bind fun given => ((check given.2).map toValue).toOption := by
  unfold read
  cases f.given? entries with
  | none => rfl
  | some given =>
    simp only [Option.bind_some]
    cases check given.2 <;> rfl

end

/-- A layer refuses a value for a field just when the field's check does. -/
theorem refusal?_eq (f : OptionField) (v : Value) : f.refusal? true v = refusalOf (f.check v) := by
  cases f with
  | scopeName => exact ((refusalOf_map _ _).trans (refusalOf_of_null (x := none) rfl v)).symm
  | wildcard => exact ((refusalOf_map _ _).trans (refusalOf_of_null (x := .none) rfl v)).symm
  | rankColumns => exact ((refusalOf_map _ _).trans (refusalOf_of_null (x := none) rfl v)).symm
  | _ => exact ((refusalOf_map _ _).trans (refusalOf_orNull _ v)).symm

end OptionField

theorem Layer.value?_given (entries : Entries) (f : OptionField) :
    (Layer.given entries).value? f = (f.given? entries).bind fun given => (f.check given.2).toOption := by
  cases f <;> exact OptionField.map_read _ _ entries

end FullText
