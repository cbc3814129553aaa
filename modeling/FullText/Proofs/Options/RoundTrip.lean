import FullText.Proofs.Options.FieldEntries
import FullText.Proofs.Registry.Runs
import FullText.Settings

/-!
# Options are their own entries

Options that can come about pass every check that options are given to, and are read back from what they hold.

* `IsLanguagePattern`, `Options.Valid` — what options hold beyond what their types say.
* `Options.check_value` — the checks leave what valid options hold as it is; hence `Options.ofEntries_entries` and
  `Options.resolve_entries`, which read them back from their own entries, in full and as overrides over any others.
* `Options.Reachable.exists_check` — whatever options that can come about hold, a check made it of some value; hence
  `Options.Reachable.valid`.
* `Options.reachable_of_settings`, `Registry.reachable_of_mem` — settings and registries make no other options.
-/

namespace FullText

/-! ## Valid options -/

/-- That a text is a letter or underscore, and then letters, digits, underscores and periods to its end. -/
def IsLanguagePattern (s : String) : Prop :=
  ∃ c rest, s.toList = c :: rest ∧ (c.isAlpha = true ∨ c = '_') ∧
    ∀ x ∈ rest, x.isAlphanum = true ∨ x = '_' ∨ x = '.'

theorem isLanguageName_iff {s : String} : isLanguageName s = true ↔ IsLanguagePattern s := by
  unfold isLanguageName IsLanguagePattern
  cases s.toList with
  | nil => simp
  | cons c rest => simp [isLanguageStart, isLanguageChar, or_assoc]

namespace Options

/-- What options hold beyond what their types say. -/
structure Valid (o : Options) : Prop where
  /-- A whole number that is not negative. -/
  normalization : ∃ n : Nat, o.value .normalization = .int n
  language : ∃ s, o.value .language = .text s ∧ IsLanguagePattern s
  /-- Null, or at least one column. -/
  rankColumns : o.value .rankColumns = .null ∨ ∃ c cs, o.value .rankColumns = .tuple ((c :: cs).map .column)

variable {o : Options}

theorem Valid.isLanguageName (h : o.Valid) : isLanguageName o.language = true := by
  obtain ⟨s, hs, hpattern⟩ := h.language
  rw [isLanguageName_iff, Value.text.inj hs]
  exact hpattern

theorem Valid.rankColumns_ne_nil (h : o.Valid) : o.rankColumns ≠ some [] := by
  intro hnil
  rcases h.rankColumns with hcs | ⟨c, cs, hcs⟩ <;> simp [value, hnil, Value.nullOr, Value.ofColumns] at hcs

theorem valid_of_fields (hlanguage : FullText.isLanguageName o.language = true) (hcolumns : o.rankColumns ≠ some []) :
    o.Valid := by
  refine ⟨⟨o.normalization, rfl⟩, ⟨o.language, rfl, isLanguageName_iff.1 hlanguage⟩, ?_⟩
  cases hcs : o.rankColumns with
  | none => exact .inl (by rw [value, hcs]; rfl)
  | some cs =>
    obtain ⟨c, rest, rfl⟩ : ∃ c rest, cs = c :: rest :=
      List.exists_cons_of_ne_nil fun hnil => hcolumns (by rw [hcs, hnil])
    exact .inr ⟨c, rest, by rw [value, hcs]; rfl⟩

theorem valid_default : Options.default.Valid := valid_of_fields (by decide) (by decide)

end Options

/-! ## Reading back what a field holds -/

theorem wordOf_wildcard (w : Wildcard) : wordOf w.word = w.word := by cases w <;> decide +kernel

theorem wordOf_operator (op : Operator) : wordOf op.word = op.word := by cases op <;> decide +kernel

theorem wordOf_rankFunction (fn : RankFunction) : wordOf fn.word = fn.word := by cases fn <;> decide +kernel

/-- A choice is read back from its own word. -/
theorem checkChoice_of_word {α : Type} {words : List String} {ofWord? : String → Option α} {v : Value} {word : String}
    {x : α} (hv : v.text? = some word) (hword : wordOf word = word) (hx : ofWord? word = some x) :
    checkChoice words ofWord? v = .ok x := by
  simp only [checkChoice, hv, hword, hx]

theorem checkWildcard_wildcard (w : Wildcard) : checkWildcard (.wildcard w) = .ok w := by
  simp only [checkWildcard]
  exact checkChoice_of_word rfl (wordOf_wildcard w) (by cases w <;> rfl)

theorem checkOperator_operator (op : Operator) : checkOperator (.operator op) = .ok op := by
  simp only [checkOperator]
  exact checkChoice_of_word rfl (wordOf_operator op) (Operator.ofWord?_word op)

theorem checkRankFunction_rankFunction (fn : RankFunction) : checkRankFunction (.rankFunction fn) = .ok fn := by
  simp only [checkRankFunction]
  exact checkChoice_of_word rfl (wordOf_rankFunction fn) (by cases fn <;> rfl)

theorem checkScopeName_nullOr (name : Option String) : checkScopeName (.nullOr .text name) = .ok name := by
  cases name <;> rfl

theorem checkNormalization_ofNat (n : Nat) : checkNormalization (.ofNat n) = .ok n := by
  simp [checkNormalization, Value.ofNat, Value.toInteger]

theorem checkLanguage_text {s : String} (h : isLanguageName s = true) : checkLanguage (.text s) = .ok s := by
  simp [checkLanguage, Value.text?, h]

theorem checkRankColumns_nullOr {cs : Option (List Column)} (h : cs ≠ some []) :
    checkRankColumns (.nullOr .ofColumns cs) = .ok cs := by
  rcases cs with _ | _ | ⟨c, rest⟩
  · rfl
  · exact absurd rfl h
  · have hcs := columnsOf_columns (c :: rest)
    simp only [Value.nullOr, Value.ofColumns, checkRankColumns, Value.items?, hcs]

/-- A check that also accepts null leaves what it leaves without. -/
theorem map_orNull_of_check {α : Type} {check : Value → Except Refusal α} (toValue : α → Value) {x : α}
    (hnull : (toValue x).isNull = false) (h : check (toValue x) = .ok x) :
    (orNull check (toValue x)).map (Value.nullOr toValue) = .ok (toValue x) := by
  simp only [orNull, hnull, h]
  rfl

namespace Options

variable {o : Options}

/-- The check of a field leaves what valid options hold for it as it is. -/
theorem check_value (h : o.Valid) (f : OptionField) : f.check (o.value f) = .ok (o.value f) := by
  cases f <;> simp only [OptionField.check, value]
  case scopeName => exact map_eq_ok.2 ⟨o.scopeName, checkScopeName_nullOr o.scopeName, rfl⟩
  case wildcard => exact map_eq_ok.2 ⟨o.wildcard, checkWildcard_wildcard o.wildcard, rfl⟩
  case operator => exact map_orNull_of_check .operator rfl (checkOperator_operator o.operator)
  case normalization => exact map_orNull_of_check .ofNat rfl (checkNormalization_ofNat o.normalization)
  case selectRank => exact map_orNull_of_check .bool rfl rfl
  case language => exact map_orNull_of_check .text rfl (checkLanguage_text h.isLanguageName)
  case rankFunction => exact map_orNull_of_check .rankFunction rfl (checkRankFunction_rankFunction o.rankFunction)
  case rankColumns => exact map_eq_ok.2 ⟨o.rankColumns, checkRankColumns_nullOr h.rankColumns_ne_nil, rfl⟩

/-! ## Entries of options -/

/-- What options hold, under the names of the fields. -/
def entries (o : Options) : Entries := OptionField.all.map fun f => (f.name, o.value f)

theorem given?_entries (o : Options) (f : OptionField) : f.given? o.entries = some (f.name, o.value f) := by
  cases f <;> rfl

theorem isUnknownKey_entries (o : Options) (f : OptionField) : isUnknownKey o.entries f.name = false := by
  cases f <;> rfl

theorem entryFaults_entries {inLayer : Bool} (h : ∀ f : OptionField, f.refusal? inLayer (o.value f) = none) :
    entryFaults inLayer o.entries = [] := by
  refine entryFaults_eq_nil.2 ⟨fun f => ?_, fun e he => ?_⟩
  · simp [OptionField.fault?, given?_entries, h f]
  · obtain ⟨f, -, rfl⟩ := List.mem_map.1 he
    exact isUnknownKey_entries o f

theorem read_entries {α : Type} {f : OptionField} {check : Value → Except Refusal α} {x : α}
    (h : check (o.value f) = .ok x) : f.read check o.entries = some x := by
  rw [OptionField.read, given?_entries, Option.bind_some, h]
  rfl

/-- Valid options are read back from their own entries. -/
theorem ofEntries_entries (h : o.Valid) : Options.ofEntries o.entries = .ok o := by
  have hname : checkScopeName (o.value .scopeName) = .ok o.scopeName := checkScopeName_nullOr _
  have hwildcard : checkWildcard (o.value .wildcard) = .ok o.wildcard := checkWildcard_wildcard _
  have hoperator : checkOperator (o.value .operator) = .ok o.operator := checkOperator_operator _
  have hnormalization : checkNormalization (o.value .normalization) = .ok o.normalization := checkNormalization_ofNat _
  have hselect : checkSelectRank (o.value .selectRank) = .ok o.selectRank := rfl
  have hlanguage : checkLanguage (o.value .language) = .ok o.language := checkLanguage_text h.isLanguageName
  have hfunction : checkRankFunction (o.value .rankFunction) = .ok o.rankFunction := checkRankFunction_rankFunction _
  have hcolumns : checkRankColumns (o.value .rankColumns) = .ok o.rankColumns :=
    checkRankColumns_nullOr h.rankColumns_ne_nil
  have hfaults : entryFaults false o.entries = [] := by
    refine entryFaults_entries fun f => ?_
    cases f <;> simp only [OptionField.refusal?, hname, hwildcard, hoperator, hnormalization, hselect, hlanguage,
      hfunction, hcolumns, refusalOf, Bool.false_and, Bool.false_eq_true, if_false]
  simp only [Options.ofEntries, hfaults, read_entries hname, read_entries hwildcard, read_entries hoperator,
    read_entries hnormalization, read_entries hselect, read_entries hlanguage, read_entries hfunction,
    read_entries hcolumns, Option.getD_some]

/-- Over any options, the entries of valid ones come to these. -/
theorem resolve_entries (h : o.Valid) (b : Options) : b.resolve (.entries o.entries) = .ok o := by
  have hentries : o.entries = .ofFields OptionField.name fun f => some (o.value f) := by
    simp only [entries, Entries.ofFields, Option.map_some, List.filterMap_eq_map']
  rw [hentries]
  exact resolve_ofFields OptionField.name_mem_keys fun f => check_value h f

end Options

/-! ## Where the fields come from -/

theorem isLanguageName_of_check {v : Value} {s : String} (h : checkLanguage v = .ok s) : isLanguageName s = true := by
  unfold checkLanguage at h
  split at h
  · cases h
  · split at h
    · next hname =>
      cases h
      exact hname
    · cases h

theorem Overrides.checked_entries (entries : Entries) : (Overrides.entries entries).Checked := trivial

namespace Options

variable {d o : Options} {overrides : Overrides}

/-- Laying on checked overrides, a field is left alone or holds what its check made of a value. -/
theorem value_of_checked (hchecked : overrides.Checked) (ho : d.resolve overrides = .ok o) (f : OptionField) :
    o.value f = d.value f ∨ ∃ v, f.check v = .ok (o.value f) := by
  obtain ⟨l, hl, hnull, rfl⟩ := resolve_eq_ok.1 ho
  obtain ⟨entries, rfl⟩ := hchecked.exists_given hl
  rw [Layer.value_apply hnull, Layer.value?_given]
  cases hset : f.given? entries with
  | none => exact .inl rfl
  | some given =>
    rw [Option.bind_some]
    cases hcheck : f.check given.2 with
    | error r => exact .inl rfl
    | ok w => exact .inr ⟨given.2, hcheck⟩

theorem Reachable.exists_check (h : o.Reachable) (f : OptionField) : ∃ v, f.check v = .ok (o.value f) := by
  induction h with
  | default => exact ⟨_, check_value valid_default f⟩
  | named h name ih =>
    cases f with
    | scopeName => exact ⟨.text name, rfl⟩
    | _ => exact ih
  | resolve h hchecked ho ih =>
    rcases value_of_checked hchecked ho f with hkept | hset
    · rw [hkept]
      exact ih
    · exact hset

theorem Reachable.valid (h : o.Reachable) : o.Valid := by
  refine valid_of_fields ?_ h.rankColumns_ne_nil
  obtain ⟨v, hv⟩ := h.exists_check .language
  obtain ⟨read, hread, hvalue⟩ := map_eq_ok.1 hv
  obtain rfl : read = some o.language := Value.nullOr_text_injective hvalue
  unfold orNull at hread
  split at hread
  · cases hread
  · obtain ⟨s, hs, hsome⟩ := map_eq_ok.1 hread
    rw [← Option.some.inj hsome]
    exact isLanguageName_of_check hs

/-! ## Settings and registries -/

theorem reachable_of_settings {s : Settings} (hd : d.Reachable) (ho : s.options d = .ok o) : o.Reachable :=
  .resolve hd (Overrides.checked_entries s.entries) ho

end Options

namespace Registry

variable {r : Registry}

/-- What a request stores has options that come of those that the registry lends. -/
theorem reachable_of_answer (hd : r.defaults.Reachable) (h : ∀ s ∈ r.scopes, s.defaults.Reachable) (q : Request) :
    ∀ s ∈ (r.answer q).2.scopes, s.defaults.Reachable := by
  intro s hs
  rw [answer_snd, List.mem_append] at hs
  rcases hs with hs | hs
  · exact h s hs
  · rw [Option.mem_toList, registered?_eq_some] at hs
    obtain ⟨columns, options, rfl, hreg⟩ := hs
    obtain ⟨-, cs, o, -, ho, -, rfl, -⟩ := register_eq_ok_iff.1 hreg
    exact .named (.resolve hd (Overrides.checked_entries options) ho) (o.nameOver cs)

theorem reachable_of_mem (hd : r.defaults.Reachable) (h : ∀ s ∈ r.scopes, s.defaults.Reachable) (qs : List Request) :
    ∀ s ∈ (r.after qs).scopes, s.defaults.Reachable := by
  induction qs generalizing r with
  | nil => exact h
  | cons q rest ih =>
    have hlent : (r.answer q).2.defaults = r.defaults := by rw [answer_snd]
    exact ih (hlent ▸ hd) (reachable_of_answer hd h q)

end Registry

/-- **Options that come about are valid and read back.**  Be it from overrides over the default options, from settings
or from a registry's scopes: the options pass all checks, a full reading of their own entries gives them back, and so
do their entries over any other options. -/
theorem Options.valid_and_read_back {o : Options}
    (h : o.Reachable ∨ (∃ (s : Settings) (d : Options), d.Reachable ∧ s.options d = .ok o) ∨
      ∃ (d : Options) (qs : List Request) (scope : Scope), d.Reachable ∧
        scope ∈ (({ defaults := d } : Registry).after qs).scopes ∧ scope.defaults = o) :
    o.Valid ∧ Options.ofEntries o.entries = .ok o ∧ ∀ b : Options, b.resolve (.entries o.entries) = .ok o := by
  have hreachable : o.Reachable := by
    rcases h with h | ⟨s, d, hd, ho⟩ | ⟨d, qs, scope, hd, hscope, rfl⟩
    · exact h
    · exact reachable_of_settings hd ho
    · exact Registry.reachable_of_mem hd (by simp) qs scope hscope
  have hvalid : o.Valid := hreachable.valid
  exact ⟨hvalid, ofEntries_entries hvalid, resolve_entries hvalid⟩

/-- A scope ranked by a column of its own, in a registry that lends a language. -/
theorem Options.valid_and_read_back_stored :
    let d : Options := { language := "english" }
    let o : Options := { d with
      scopeName := some "search_by_name", wildcard := .last, rankColumns := some [⟨"b", some "a"⟩] }
    let register : Request :=
      .register [.text "name"] [("rank_columns", .text "a.b"), ("wildcard", .text "last")]
    (d.Reachable ∧
      ∃ s ∈ (({ defaults := d } : Registry).after [register]).scopes, s.name = "search_by_name" ∧ s.defaults = o) ∧
    o.Valid ∧ Options.ofEntries o.entries = .ok o ∧ ∀ b : Options, b.resolve (.entries o.entries) = .ok o := by
  intro d o register
  let given : Entries := [("rank_columns", .text "a.b"), ("wildcard", .text "last")]
  let s : Scope := .over [⟨"name", none⟩] { o with scopeName := none }
  have hd : d.Reachable := by
    refine .resolve .default (Overrides.checked_entries [("language", .text "english")]) ?_
    cbv
  have hgiven : d.resolve (.entries given) = .ok { o with scopeName := none } := by cbv
  have hcolumns : columnsOf [.text "name"] = .ok [⟨"name", none⟩] := rfl
  have hs : s ∈ (({ defaults := d } : Registry).after [register]).scopes := by
    have hreg : ({ defaults := d } : Registry).register [.text "name"] given =
        .ok (s, { defaults := d, scopes := [] ++ [s] }) :=
      Registry.register_eq_ok_iff.2 ⟨List.cons_ne_nil _ _, _, _, hcolumns, hgiven, List.not_mem_nil, rfl, rfl⟩
    have hafter : ({ defaults := d } : Registry).after [register] = { defaults := d, scopes := [] ++ [s] } := by
      simp only [Registry.after, List.foldl_cons, List.foldl_nil, Registry.answer, register, given, hreg]
    rw [hafter]
    exact List.mem_singleton_self s
  have ho : s.defaults = o := by decide
  exact ⟨⟨hd, s, hs, by decide, ho⟩, valid_and_read_back (.inr (.inr ⟨d, [register], s, hd, hs, ho⟩))⟩

end FullText
