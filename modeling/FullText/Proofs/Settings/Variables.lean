import FullText.Proofs.Options.FieldEntries
import FullText.Proofs.Options.RoundTrip
import FullText.Proofs.Settings

/-!
# Options from environment variables

Six options have their defaults from settings, and so from environment variables.  Most variables are kept as they are
written until options are made of the settings; a number and a truth value are read at once.

* `OptionField.variableText?`, `OptionField.refused?` — what the variable of an option holds, and why the check of the
  option refuses it, if it does.
* `Settings.ofVariables`, `Settings.read_eq_ok` — the settings that variables give, when they can be read.
* `Settings.check_value?` — the checks take what settings hold as they take the texts of the variables; hence
  `Settings.value_of_options`, by which options of settings hold what the checks make of these texts.
* `Settings.options_of_variables` — variables come to options just when no option refuses its own.  Otherwise the first
  option that does is named, unless a number or a truth value cannot be read: then the settings are refused as a whole.
-/

namespace FullText

/-! ## Variables of options -/

namespace OptionField

/-- The setting that an option has its default from; a scope's name and the columns to rank by have none. -/
def setting? : OptionField → Option SettingField
  | .scopeName | .rankColumns => none
  | .wildcard => some .wildcard
  | .operator => some .operator
  | .normalization => some .normalization
  | .selectRank => some .selectRank
  | .language => some .language
  | .rankFunction => some .rankFunction

/-- The text of the variable that an option has its default from. -/
def variableText? (f : OptionField) (env : Environment) : Option String := f.setting?.bind (·.ofEnvironment? env)

/-- Why an option refuses the text of its variable. -/
def refused? (f : OptionField) (env : Environment) : Option Refusal :=
  (f.variableText? env).bind fun s => refusalOf (f.check (.text s))

end OptionField

/-! ## Outcomes up to the value that is shown -/

theorem kind_refusalOf {α : Type} {x y : Except Refusal α} (h : x.mapError Refusal.kind = y.mapError Refusal.kind) :
    (refusalOf x).map Refusal.kind = (refusalOf y).map Refusal.kind := by
  cases x <;> cases y <;> simp_all [Except.mapError, refusalOf]

/-! ## Checks of words -/

theorem checkWildcard_word (w : Wildcard) : checkWildcard (.text w.word) = .ok w := by
  simp only [checkWildcard]
  exact checkChoice_of_word rfl (wordOf_wildcard w) (by cases w <;> rfl)

theorem checkOperator_word (op : Operator) : checkOperator (.text op.word) = .ok op := by
  simp only [checkOperator]
  exact checkChoice_of_word rfl (wordOf_operator op) (Operator.ofWord?_word op)

theorem checkRankFunction_word (fn : RankFunction) : checkRankFunction (.text fn.word) = .ok fn := by
  simp only [checkRankFunction]
  exact checkChoice_of_word rfl (wordOf_rankFunction fn) (by cases fn <;> rfl)

/-- A check that also accepts null does with another value what it does without. -/
theorem orNull_of_isNull_eq_false {α : Type} (check : Value → Except Refusal α) {v : Value} (hv : v.isNull = false) :
    orNull check v = (check v).map some := by
  simp only [orNull, hv]
  rfl

/-! ## Variables that cannot be read -/

theorem kindOf_eq_none {α : Type} {x : Except FaultKind α} : kindOf x = none ↔ ∃ a, x = .ok a := by
  cases x <;> simp [kindOf]

theorem kindOf_eq_some {α : Type} {x : Except FaultKind α} {kind : FaultKind} :
    kindOf x = some kind ↔ x = .error kind := by
  cases x <;> simp [kindOf]

namespace SettingField

variable {env : Environment} {t : String}

theorem fault?_of_nothing (f : SettingField) (env : Environment) :
    f.fault? [] env = (f.ofEnvironment? env).bind fun t =>
      (f.kind? (.text t)).map fun kind => ⟨f.name, kind, .text t⟩ := by
  rw [fault?, value?_of_nothing]
  cases f.ofEnvironment? env with
  | none => rfl
  | some t =>
    simp only [Option.map_some, Option.bind_eq_bind, Option.bind_some]
    cases f.kind? (.text t) <;> rfl

theorem exists_readInteger (h : normalization.fault? [] env = none) (ht : normalization.ofEnvironment? env = some t) :
    ∃ n, readInteger t = .ok n := by
  rw [fault?_of_nothing, ht, Option.bind_some, Option.map_eq_none_iff] at h
  exact kindOf_eq_none.1 h

theorem exists_readBoolean (h : selectRank.fault? [] env = none) (ht : selectRank.ofEnvironment? env = some t) :
    ∃ b, readBoolean t = .ok b := by
  rw [fault?_of_nothing, ht, Option.bind_some, Option.map_eq_none_iff] at h
  exact kindOf_eq_none.1 h

end SettingField

namespace Settings

variable {env : Environment} {s : Settings}

/-! ## Settings that can be read -/

/-- The settings that variables give, as far as they can be read. -/
def ofVariables (env : Environment) : Settings where
  wildcard := (SettingField.wildcard.ofEnvironment? env).getD default.wildcard
  operator := (SettingField.operator.ofEnvironment? env).getD default.operator
  normalization := ((SettingField.normalization.ofEnvironment? env).bind fun s => (readInteger s).toOption).getD
    default.normalization
  selectRank := ((SettingField.selectRank.ofEnvironment? env).bind fun s => (readBoolean s).toOption).getD
    default.selectRank
  language := (SettingField.language.ofEnvironment? env).getD default.language
  rankFunction := (SettingField.rankFunction.ofEnvironment? env).getD default.rankFunction
  logLevel := (SettingField.logLevel.ofEnvironment? env).getD default.logLevel

theorem read_eq_ok : read [] env = .ok s ↔ (∀ f : SettingField, f.fault? [] env = none) ∧ s = ofVariables env := by
  have hfaults : SettingField.all.filterMap (·.fault? [] env) = [] ↔ ∀ f : SettingField, f.fault? [] env = none := by
    rw [List.filterMap_eq_nil_iff]
    exact ⟨fun h f => h f f.mem_all, fun h f _ => h f⟩
  have hnumber : SettingField.normalization.read checkWhole [] env =
      (SettingField.normalization.ofEnvironment? env).bind fun s => (readInteger s).toOption := by
    rw [SettingField.read, SettingField.value?_of_nothing]
    cases SettingField.normalization.ofEnvironment? env <;> rfl
  have htruth : SettingField.selectRank.read Value.toBoolean [] env =
      (SettingField.selectRank.ofEnvironment? env).bind fun s => (readBoolean s).toOption := by
    rw [SettingField.read, SettingField.value?_of_nothing]
    cases SettingField.selectRank.ofEnvironment? env <;> rfl
  rw [← hfaults]
  unfold read
  cases SettingField.all.filterMap (·.fault? [] env) with
  | nil =>
    simp only [SettingField.read_word, hnumber, htruth, true_and, Except.ok.injEq]
    exact eq_comm
  | cons fault rest => simp

/-! ## What settings hold for options -/

/-- What settings hold for an option. -/
def value? (s : Settings) : OptionField → Option Value
  | .scopeName | .rankColumns => none
  | .wildcard => some (.text s.wildcard)
  | .operator => some (.text s.operator)
  | .normalization => some (.int s.normalization)
  | .selectRank => some (.bool s.selectRank)
  | .language => some (.text s.language)
  | .rankFunction => some (.text s.rankFunction)

theorem options_eq (s : Settings) (base : Options) :
    s.options base = base.resolve (.entries (.ofFields OptionField.name s.value?)) := rfl

/-- What stands for no setting is what the default options hold. -/
theorem check_value?_default {f : OptionField} {v : Value} (hv : default.value? f = some v) :
    f.check v = .ok (Options.default.value f) := by
  cases f <;> cases hv <;> simp only [OptionField.check]
  case wildcard => exact map_eq_ok.2 ⟨.all, checkWildcard_word .all, rfl⟩
  case operator =>
    rw [orNull_of_isNull_eq_false checkOperator rfl]
    exact map_eq_ok.2 ⟨some .and, map_eq_ok.2 ⟨.and, checkOperator_word .and, rfl⟩, rfl⟩
  case normalization => rfl
  case selectRank => rfl
  case language => rfl
  case rankFunction =>
    rw [orNull_of_isNull_eq_false checkRankFunction rfl]
    exact map_eq_ok.2 ⟨some .frequency, map_eq_ok.2 ⟨.frequency, checkRankFunction_word .frequency, rfl⟩, rfl⟩

/-- A number that can be read is checked as its text is. -/
theorem check_normalization_int {t : String} {n : Int} (h : readInteger t = .ok n) :
    (OptionField.normalization.check (.int n)).mapError Refusal.kind =
      (OptionField.normalization.check (.text t)).mapError Refusal.kind := by
  have htext : (Value.text t).toInteger = .ok n := h
  have hint : (Value.int n).toInteger = .ok n := rfl
  have hcheck (v : Value) (hv : v.isNull = false) :
      OptionField.normalization.check v = ((checkNormalization v).map some).map (.nullOr .ofNat) := by
    rw [OptionField.check, orNull_of_isNull_eq_false checkNormalization hv]
  rw [hcheck _ rfl, hcheck _ rfl]
  simp only [checkNormalization, htext, hint]
  by_cases hn : n < 0
  · rw [if_pos hn, if_pos hn]
    rfl
  · rw [if_neg hn, if_neg hn]

/-- A truth value that can be read is checked as its text is. -/
theorem check_selectRank_bool {t : String} {b : Bool} (h : readBoolean t = .ok b) :
    OptionField.selectRank.check (.bool b) = OptionField.selectRank.check (.text t) := by
  have htext : (Value.text t).toBoolean = .ok b := h
  simp only [OptionField.check, orNull, Value.isNull, checkSelectRank, htext]
  rfl

/-- A number that cannot be read is refused for what is wrong with it, and so is a truth value. -/
theorem refusalOf_check_normalization {t : String} {kind : FaultKind} (h : readInteger t = .error kind) :
    refusalOf (OptionField.normalization.check (.text t)) = some ⟨kind, .text t⟩ := by
  have htext : (Value.text t).toInteger = .error kind := h
  rw [← OptionField.refusal?_eq]
  simp only [OptionField.refusal?, checkNormalization, htext]
  rfl

theorem refusalOf_check_selectRank {t : String} {kind : FaultKind} (h : readBoolean t = .error kind) :
    refusalOf (OptionField.selectRank.check (.text t)) = some ⟨kind, .text t⟩ := by
  have htext : (Value.text t).toBoolean = .error kind := h
  rw [← OptionField.refusal?_eq]
  simp only [OptionField.refusal?, checkSelectRank, htext]
  rfl

/-- A check takes what settings hold as it takes the text of the variable, but for the value that it shows. -/
theorem check_value? (h : read [] env = .ok s) {f : OptionField} {v : Value} (hv : s.value? f = some v) :
    (f.check v).mapError Refusal.kind =
      ((f.variableText? env).map fun t => (f.check (.text t)).mapError Refusal.kind).getD
        (.ok (Options.default.value f)) := by
  obtain ⟨hread, rfl⟩ := read_eq_ok.1 h
  cases ht : f.variableText? env with
  | none =>
    have hdefault : default.value? f = some v := by
      rw [← hv]
      cases f <;> simp_all [OptionField.variableText?, OptionField.setting?, value?, ofVariables]
    rw [check_value?_default hdefault]
    rfl
  | some t =>
    rw [Option.map_some, Option.getD_some]
    cases f with
    | scopeName | rankColumns => cases hv
    | normalization =>
      cases hv
      have ht' : SettingField.normalization.ofEnvironment? env = some t := ht
      obtain ⟨n, hn⟩ := SettingField.exists_readInteger (hread .normalization) ht'
      have hvalue : (ofVariables env).normalization = n := by simp [ofVariables, ht', hn, Except.toOption]
      rw [hvalue, check_normalization_int hn]
    | selectRank =>
      cases hv
      have ht' : SettingField.selectRank.ofEnvironment? env = some t := ht
      obtain ⟨b, hb⟩ := SettingField.exists_readBoolean (hread .selectRank) ht'
      have hvalue : (ofVariables env).selectRank = b := by simp [ofVariables, ht', hb, Except.toOption]
      rw [hvalue, check_selectRank_bool hb]
    | wildcard | operator | language | rankFunction =>
      cases hv
      simp only [OptionField.variableText?, OptionField.setting?, Option.bind_some] at ht
      simp only [ofVariables, ht, Option.getD_some]

/-- What settings hold is refused just when the text of the variable is. -/
theorem kind_refusalOf_value? (h : read [] env = .ok s) (f : OptionField) :
    ((s.value? f).bind fun v => refusalOf (f.check v)).map Refusal.kind = (f.refused? env).map Refusal.kind := by
  cases hv : s.value? f with
  | none => cases f <;> cases hv <;> rfl
  | some v =>
    have hcheck := check_value? h hv
    rw [Option.bind_some, OptionField.refused?]
    cases ht : f.variableText? env with
    | none =>
      rw [ht, Option.map_none, Option.getD_none] at hcheck
      exact kind_refusalOf (y := .ok (Options.default.value f)) hcheck
    | some t =>
      rw [ht, Option.map_some, Option.getD_some] at hcheck
      exact kind_refusalOf hcheck

/-! ## Options from variables -/

/-- What cannot be read of a variable is refused as an option, for the same reason. -/
theorem exists_refused?_of_fault? {f : SettingField} {fault : Fault} (h : f.fault? [] env = some fault) :
    ∃ (g : OptionField) (r : Refusal),
      (g = .normalization ∨ g = .selectRank) ∧ g.refused? env = some r ∧ fault = r.at g.name := by
  have hf : f = .normalization ∨ f = .selectRank := SettingField.eq_of_fault? h
  rw [SettingField.fault?_of_nothing] at h
  obtain ⟨t, ht, h⟩ := Option.bind_eq_some_iff.1 h
  obtain ⟨kind, hkind, rfl⟩ := Option.map_eq_some_iff.1 h
  rcases hf with rfl | rfl
  · have hcheck := refusalOf_check_normalization (kindOf_eq_some.1 hkind)
    exact ⟨.normalization, _, .inl rfl, Option.bind_eq_some_iff.2 ⟨t, ht, hcheck⟩, rfl⟩
  · have hcheck := refusalOf_check_selectRank (kindOf_eq_some.1 hkind)
    exact ⟨.selectRank, _, .inr rfl, Option.bind_eq_some_iff.2 ⟨t, ht, hcheck⟩, rfl⟩

theorem read_eq_error_iff : (∃ faults, read [] env = .error faults) ↔
    (∃ t kind, OptionField.normalization.variableText? env = some t ∧ readInteger t = .error kind) ∨
      ∃ t kind, OptionField.selectRank.variableText? env = some t ∧ readBoolean t = .error kind := by
  constructor
  · rintro ⟨faults, h⟩
    obtain ⟨rfl, hne⟩ := read_eq_error.1 h
    obtain ⟨fault, hfault⟩ := List.exists_mem_of_ne_nil _ hne
    obtain ⟨f, -, hf⟩ := List.mem_filterMap.1 hfault
    have hsetting := SettingField.eq_of_fault? hf
    rw [SettingField.fault?_of_nothing] at hf
    obtain ⟨t, ht, hf⟩ := Option.bind_eq_some_iff.1 hf
    obtain ⟨kind, hkind, -⟩ := Option.map_eq_some_iff.1 hf
    rcases hsetting with rfl | rfl
    · exact .inl ⟨t, kind, ht, kindOf_eq_some.1 hkind⟩
    · exact .inr ⟨t, kind, ht, kindOf_eq_some.1 hkind⟩
  · have hfault {f : SettingField} {t : String} {kind : FaultKind} (ht : f.ofEnvironment? env = some t)
        (hkind : f.kind? (.text t) = some kind) : ∃ faults, read [] env = .error faults := by
      have hf : f.fault? [] env = some ⟨f.name, kind, .text t⟩ := by
        rw [SettingField.fault?_of_nothing, ht, Option.bind_some, hkind, Option.map_some]
      exact exists_read_eq_error hf
    rintro (⟨t, kind, ht, hread⟩ | ⟨t, kind, ht, hread⟩)
    · exact hfault (f := .normalization) ht (kindOf_eq_some.2 hread)
    · exact hfault (f := .selectRank) ht (kindOf_eq_some.2 hread)

theorem exists_options (h : read [] env = .ok s) (hnone : ∀ f : OptionField, f.refused? env = none) (base : Options) :
    ∃ o, s.options base = .ok o := by
  have hcheck (f : OptionField) (v : Value) (hv : s.value? f = some v) : ∃ w, f.check v = .ok w := by
    have hf := kind_refusalOf_value? h f
    rw [hnone, hv, Option.bind_some, Option.map_none, Option.map_eq_none_iff] at hf
    exact refusalOf_eq_none.1 hf
  have hnull : ∀ f ∈ OptionField.required, s.value? f ≠ some .null := by
    intro f _
    cases f <;> simp [value?]
  exact Options.exists_resolve_ofFields OptionField.name_mem_keys hcheck hnull base

/-- The first option that refuses its variable is the one that settings are refused by. -/
theorem options_eq_error (h : read [] env = .ok s) {f : OptionField}
    (hfirst : OptionField.all.find? (fun f => (f.refused? env).isSome) = some f) (base : Options) :
    ∃ r value, f.refused? env = some r ∧
      s.options base = .error (.invalidOption f.name value (some r.kind.message)) := by
  have hkind := kind_refusalOf_value? h
  let entries : Entries := .ofFields OptionField.name s.value?
  have hfault (g : OptionField) : g.fault? true entries =
      ((s.value? g).bind fun v => refusalOf (g.check v)).map (·.at g.name) := by
    rw [Entries.fault?_ofFields OptionField.name_mem_keys, Option.map_bind]
    rfl
  -- what settings hold fails just where the variables are refused
  have hfails : entries.fails = fun g => (g.refused? env).isSome := by
    funext g
    rw [OptionField.fails_eq, hfault, Option.isSome_map, ← Option.isSome_map (f := Refusal.kind), hkind g,
      Option.isSome_map]
  have hsome : (f.refused? env).isSome = true := by simpa using List.find?_some hfirst
  obtain ⟨r, hr⟩ := Option.isSome_iff_exists.1 hsome
  have hf := hkind f
  rw [hr, Option.map_some, Option.map_eq_some_iff] at hf
  obtain ⟨r', hr', hsame⟩ := hf
  have hhead : (entryFaults true entries).head? = some (r'.at f.name) := by
    rw [head?_entryFaults, OptionField.findSome?_fault? (hfails ▸ hfirst), hfault, hr', Option.map_some, Option.some_or]
  refine ⟨r, r'.input, hr, ?_⟩
  rw [options_eq, ← hsame]
  exact Options.resolve_of_head?_entryFaults hhead base

theorem options_eq_ok_or_error (h : read [] env = .ok s) (base : Options) :
    (∃ o, s.options base = .ok o ∧ ∀ f : OptionField, f.refused? env = none) ∨
      ∃ f r value, OptionField.all.find? (fun f => (f.refused? env).isSome) = some f ∧ f.refused? env = some r ∧
        s.options base = .error (.invalidOption f.name value (some r.kind.message)) := by
  cases hfirst : OptionField.all.find? (fun f => (f.refused? env).isSome) with
  | none =>
    have hnone (f : OptionField) : f.refused? env = none := by
      simpa using List.find?_eq_none.1 hfirst f f.mem_all
    obtain ⟨o, ho⟩ := exists_options h hnone base
    exact .inl ⟨o, ho, hnone⟩
  | some f =>
    obtain ⟨r, value, hr, herror⟩ := options_eq_error h hfirst base
    exact .inr ⟨f, r, value, rfl, hr, herror⟩

/-- The options of settings hold what the checks make of the variables, and else the defaults. -/
theorem value_of_options {o : Options} (h : read [] env = .ok s) (ho : s.options .default = .ok o) (f : OptionField) :
    ((f.variableText? env).map fun t => f.check (.text t)).getD (.ok (Options.default.value f)) = .ok (o.value f) := by
  rw [options_eq] at ho
  have hvalue := Options.value_of_resolve ho f
  rw [Overrides.setting?, Entries.given?_ofFields OptionField.name_mem_keys, Option.map_map] at hvalue
  cases hv : s.value? f with
  | none =>
    have hvariable : f.variableText? env = none := by cases f <;> cases hv <;> rfl
    rw [hvariable]
    rwa [hv] at hvalue
  | some v =>
    have hcheck : f.check v = .ok (o.value f) := by rwa [hv] at hvalue
    have hsame := check_value? h hv
    rw [hcheck] at hsame
    cases ht : f.variableText? env with
    | none =>
      rw [ht] at hsame
      exact congrArg Except.ok (Except.ok.inj hsame).symm
    | some t =>
      rw [ht] at hsame
      exact eq_ok_of_mapError hsame.symm

/-- **Variables come to options, or to an error that names the first option that refuses its own.**  Settings are made
of the variables before that, and are refused as a whole where the normalization is no number or the choice to show the
score no truth value.  The faults lie with these options, which refuse their variables for the same reasons. -/
theorem options_of_variables (env : Environment) (base : Options) :
    ((∃ faults, read [] env = .error faults) ↔
      (∃ t kind, OptionField.normalization.variableText? env = some t ∧ readInteger t = .error kind) ∨
        ∃ t kind, OptionField.selectRank.variableText? env = some t ∧ readBoolean t = .error kind) ∧
    (∀ faults, read [] env = .error faults → ∀ fault ∈ faults, ∃ (f : OptionField) (r : Refusal),
      (f = .normalization ∨ f = .selectRank) ∧ f.refused? env = some r ∧ fault = r.at f.name) ∧
    ∀ s, read [] env = .ok s →
      (∃ o, s.options base = .ok o ∧ ∀ f : OptionField, f.refused? env = none) ∨
        ∃ f r value, OptionField.all.find? (fun f => (f.refused? env).isSome) = some f ∧ f.refused? env = some r ∧
          s.options base = .error (.invalidOption f.name value (some r.kind.message)) := by
  refine ⟨read_eq_error_iff, fun faults h fault hfault => ?_, fun s h => options_eq_ok_or_error h base⟩
  obtain ⟨rfl, -⟩ := read_eq_error.1 h
  obtain ⟨f, -, hf⟩ := List.mem_filterMap.1 hfault
  exact exists_refused?_of_fault? hf

/-- Of an operator that is none and a number below zero, the operator is named. -/
theorem options_of_variables_operator :
    let env : Environment := [("PG_SEARCH_NORMALIZATION", "-5"), ("pg_search_Operator", "xor")]
    ∃ s, read [] env = .ok s ∧ ∃ value reason,
      s.options .default = .error (.invalidOption "operator" value reason) := by
  intro env
  obtain ⟨-, -, hoptions⟩ := options_of_variables env .default
  have hfault (f : SettingField) : f.fault? [] env = none := by
    rw [← Option.isNone_iff_eq_none]
    cases f <;> decide +kernel
  have hs : read [] env = .ok (ofVariables env) := read_eq_ok.2 ⟨hfault, rfl⟩
  have hfirst : OptionField.all.find? (fun f => (f.refused? env).isSome) = some .operator := by decide +kernel
  refine ⟨_, hs, ?_⟩
  rcases hoptions _ hs with ⟨o, -, hnone⟩ | ⟨f, r, value, hf, -, herror⟩
  · have hrefused := List.find?_some hfirst
    simp [hnone] at hrefused
  · obtain rfl : OptionField.operator = f := Option.some.inj (hfirst.symm.trans hf)
    exact ⟨value, _, herror⟩

/-- A normalization that is no number is not refused by its name. -/
theorem not_named_normalization :
    ¬ ∀ env : Environment, ∃ s, read [] env = .ok s ∧
      ((∃ o, s.options .default = .ok o) ∨ ∃ (f : OptionField) (r : Refusal) (value : Value) (reason : Option String),
        f.refused? env = some r ∧ s.options .default = .error (.invalidOption f.name value reason)) := by
  intro h
  obtain ⟨s, hs, -⟩ := h [("PG_SEARCH_NORMALIZATION", "abc")]
  have hfault : (SettingField.normalization.fault? [] [("PG_SEARCH_NORMALIZATION", "abc")]).isNone = true := by
    rw [(read_eq_ok.1 hs).1 .normalization]
    rfl
  revert hfault
  decide +kernel

end Settings

end FullText
