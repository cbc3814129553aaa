import FullText.Proofs.CommandLine.Endings
import FullText.Proofs.Json.RoundTrip
import FullText.Proofs.Plan.Compiled
import FullText.Proofs.Settings.Variables

/-!
# Flags over variables

The compile command lays the values of flags over options that are themselves laid over the default ones.

* `IsDeclared` — that an option has a name that is followed by a text, or that stands for a truth value.  One argument
  gives options what they have names for, and so do all (`declared_of_readOption`, `declared_of_collectFrom`).
* `OptionField.inEnvironment?` — what the environment holds for an option, by the names of its entries.
* `OptionField.flagValue?`, `OptionField.validated?` — the value of an option's flag, and of its variable.
* `isSome_flagValue?`, `ofSorted_eq_ok` — flags that are present have a value, and the command overrides just what they
  have one for, whatever it is.
* `asked`, `resolve_asked` — flags and variables in one.  Over the default options they come to what flags come to over
  the options of settings.
* `run_eq_describe` — hence a run that succeeds prints the summary of the one search that asks for both, and the summary
  is what can be read from the printed text.
-/

namespace FullText

namespace CommandLine

/-! ## What sorted arguments give -/

/-- The truth value that is given for an option, if no text is. -/
def Given.flag? : Given → Option Bool
  | .text _ => none
  | .flag b => some b

section
variable {α : Type} {names : List (OptionName α)} {anywhere : Bool}

/-- That an option has a name that stands for a truth value, or for none and so for a text. -/
def IsDeclared (names : List (OptionName α)) (option : α) (flag : Option Bool) : Prop :=
  ∃ n ∈ names, n.option = option ∧ n.flag = flag

/-- That a reading gives, and leaves waiting, what names are there for. -/
structure Reading.Declared (names : List (OptionName α)) (r : Reading α) : Prop where
  given : ∀ e ∈ r.given, IsDeclared names e.1 e.2.flag?
  pending : ∀ p ∈ r.pending, IsDeclared names p.option none

namespace Reading.Declared

variable {n : OptionName α}

theorem of_given (hn : n ∈ names) {g : Given} (hg : n.flag = g.flag?) :
    Declared names { given := [(n.option, g)] } where
  given := by
    rintro e (_ | ⟨_, ⟨⟩⟩)
    exact ⟨n, hn, rfl, hg⟩
  pending := nofun

theorem of_pending (hn : n ∈ names) (hflag : n.flag = none) (name : String) :
    Declared names { pending := some ⟨name, n.option⟩ } where
  given := nofun
  pending := by
    rintro p ⟨⟩
    exact ⟨n, hn, rfl, hflag⟩

theorem cons {r : Reading α} (h : r.Declared names) (hn : n ∈ names) {b : Bool} (hflag : n.flag = some b) :
    Declared names { r with given := (n.option, .flag b) :: r.given } where
  given := by
    rintro e (_ | ⟨_, he⟩)
    · exact ⟨n, hn, rfl, hflag⟩
    · exact h.given e he
  pending := h.pending

end Reading.Declared

theorem declared_of_readLetters {cs : List Char} {r : Reading α} (h : readLetters names cs = .ok r) :
    r.Declared names := by
  induction cs generalizing r with
  | nil =>
    cases h
    exact ⟨nofun, nofun⟩
  | cons c rest ih =>
    simp only [readLetters] at h
    split at h
    · cases h
    · next n hfind =>
      have hn : n ∈ names := List.mem_of_find?_eq_some hfind
      split at h
      · next hflag =>
        obtain ⟨r', hr', hr⟩ := bind_eq_ok.1 h
        cases hr
        exact (ih hr').cons hn hflag
      · next hflag =>
        cases h
        exact .of_pending hn hflag _
      · next hflag _ =>
        cases h
        exact .of_given hn hflag

/-- One argument gives, and leaves waiting, what names are there for. -/
theorem declared_of_readOption {arg : String} {r : Reading α} (h : readOption names arg = .ok r) :
    r.Declared names := by
  simp only [readOption] at h
  split at h
  · split at h
    · cases h
    · exact declared_of_readLetters h
  · next n hfind =>
    have hn : n ∈ names := List.mem_of_find?_eq_some hfind
    split at h
    · next hflag _ =>
      cases h
      exact .of_pending hn hflag _
    · next hflag _ =>
      cases h
      exact .of_given hn hflag
    · next hflag _ =>
      cases h
      exact .of_given hn hflag
    · cases h

/-- So do all arguments, by induction over them and over what is left waiting. -/
theorem declared_of_collectFrom {pending : Option (Pending α)} {args : List String} {a : Arguments α}
    (hpending : ∀ p ∈ pending, IsDeclared names p.option none)
    (h : Arguments.collectFrom names anywhere pending args = .ok a) :
    ∀ e ∈ a.options, IsDeclared names e.1 e.2.flag? := by
  induction args generalizing pending a with
  | nil =>
    cases pending with
    | none =>
      cases h
      exact fun e he => by cases he
    | some p => cases h
  | cons arg args ih =>
    cases pending with
    | some p =>
      obtain ⟨a', ha', hdone⟩ := bind_eq_ok.1 h
      cases hdone
      rintro e (_ | ⟨_, he⟩)
      · exact hpending p rfl
      · exact ih (by simp) ha' e he
    | none =>
      rw [Arguments.collectFrom] at h
      split at h
      · cases h
        exact fun e he => by cases he
      · split at h
        · obtain ⟨r, hr, h⟩ := bind_eq_ok.1 h
          obtain ⟨a', ha', hdone⟩ := bind_eq_ok.1 h
          cases hdone
          have hread := declared_of_readOption hr
          intro e he
          rcases List.mem_append.1 he with he | he
          · exact hread.given e he
          · exact ih hread.pending ha' e he
        · split at h
          · obtain ⟨a', ha', hdone⟩ := bind_eq_ok.1 h
            cases hdone
            exact fun e he => ih (by simp) ha' e he
          · cases h
            exact fun e he => by cases he

end

namespace Arguments

variable {α β : Type} [DecidableEq α] {a : Arguments α} {option : α}

theorem mem_all {g : Given} : g ∈ a.all option ↔ (option, g) ∈ a.options := by
  simp [all, and_comm]

theorem mem_used : option ∈ a.used ↔ ∃ g, (option, g) ∈ a.options := by
  simp [used]

theorem mem_texts {s : String} : s ∈ a.texts option ↔ (option, .text s) ∈ a.options := by
  rw [texts, List.mem_filterMap, ← mem_all]
  constructor
  · rintro ⟨g, hg, hs⟩
    cases g <;> cases hs
    exact hg
  · intro h
    exact ⟨_, h, rfl⟩

theorem isSome_getLast?_iff {xs : List β} : xs.getLast?.isSome = true ↔ ∃ x, x ∈ xs :=
  List.getLast?_isSome.trans ⟨List.exists_mem_of_ne_nil xs, fun ⟨_, hx⟩ => List.ne_nil_of_mem hx⟩

theorem isSome_text? : (a.text? option).isSome = true ↔ ∃ s, (option, .text s) ∈ a.options :=
  isSome_getLast?_iff.trans (exists_congr fun _ => mem_texts)

theorem isSome_flag? : (a.flag? option).isSome = true ↔ ∃ b, (option, .flag b) ∈ a.options := by
  rw [flag?, isSome_getLast?_iff]
  refine exists_congr fun b => ?_
  rw [List.mem_filterMap, ← mem_all]
  constructor
  · rintro ⟨g, hg, hb⟩
    cases g <;> cases hb
    exact hg
  · intro h
    exact ⟨_, h, rfl⟩

end Arguments

end CommandLine

/-! ## The value of a flag -/

namespace OptionField

open CommandLine

/-- The option of the command that gives a value for a field. -/
def flag : OptionField → CompileOption
  | .scopeName => .scopeName
  | .wildcard => .wildcard
  | .operator => .operator
  | .normalization => .normalization
  | .selectRank => .selectRank
  | .language => .language
  | .rankFunction => .rankFunction
  | .rankColumns => .rankColumn

/-- The key of a field that goes first. -/
def firstKey : OptionField → String
  | .scopeName => shortScopeKey
  | f => f.name

/-- What the text behind a flag is read as. -/
def ofFlagText? (f : OptionField) (s : String) : Option Value :=
  match f with
  | .wildcard => (Wildcard.ofWord? s).map .wildcard
  | .operator => (Operator.ofWord? s).map .operator
  | .normalization => (readInteger s).toOption.map .int
  | .rankFunction => (RankFunction.ofWord? s).map .rankFunction
  | _ => some (.text s)

/-- The value of a flag that is present: the last one that is given, or all columns to rank by. -/
def flagValue? (f : OptionField) (a : Arguments CompileOption) : Option Value :=
  match f with
  | .selectRank => (a.flag? .selectRank).map .bool
  | .rankColumns =>
    match a.texts .rankColumn with
    | [] => none
    | names => some (.list (names.map .text))
  | _ => (a.text? f.flag).bind f.ofFlagText?

theorem firstKey_mem_keys (f : OptionField) : f.firstKey ∈ f.keys := by cases f <;> simp [keys, firstKey]

theorem override?_flag (f : OptionField) (a : Arguments CompileOption) :
    f.flag.override? a = (f.flagValue? a).map fun v => (f.firstKey, v) := by
  cases f with
  | selectRank =>
    simp only [flag, CompileOption.override?, flagValue?]
    cases a.flag? .selectRank <;> rfl
  | rankColumns =>
    simp only [flag, CompileOption.override?, flagValue?]
    cases a.texts .rankColumn <;> rfl
  | scopeName | language =>
    simp only [flag, CompileOption.override?, flagValue?]
    cases a.text? _ <;> rfl
  | wildcard | operator | normalization | rankFunction =>
    simp only [flag, CompileOption.override?, flagValue?]
    cases a.text? _ with
    | none => rfl
    | some s =>
      simp only [Option.bind_some, ofFlagText?, Option.map_map]
      rfl

end OptionField

namespace CommandLine

variable {a : Arguments CompileOption} {c : CompileCommand}

/-! ## Flags that are present -/

/-- Only the choice to show the score is given by a truth value. -/
theorem CompileOption.isSome_of_declared {option : CompileOption} {flag : Option Bool}
    (h : IsDeclared CompileOption.declared option flag) : flag.isSome = true ↔ option = .selectRank := by
  have hall : ∀ n ∈ CompileOption.declared, n.flag.isSome = true ↔ n.option = .selectRank := by decide
  obtain ⟨n, hn, rfl, rfl⟩ := h
  exact hall n hn

theorem isSome_find?_word {α : Type} {choices : List α} {word : α → String} {s : String} :
    (choices.find? fun x => word x == s).isSome = (choices.map word).contains s := by
  rw [Bool.eq_iff_iff, List.find?_isSome, List.contains_iff_mem, List.mem_map]
  simp only [beq_iff_eq]

/-- A text that is no error is read. -/
theorem isSome_ofFlagText? {f : OptionField} {s : String} (hf : f ≠ .selectRank ∧ f ≠ .rankColumns)
    (hs : a.text? f.flag = some s) (herror : f.flag.error? a = none) : (f.ofFlagText? s).isSome = true := by
  have hchoice {option : CompileOption} {words : List String} (h : option.choiceError? words s = none) :
      words.contains s = true := by
    unfold CompileOption.choiceError? at h
    split at h
    · next hmem => exact hmem
    · cases h
  unfold CompileOption.error? at herror
  rw [hs] at herror
  cases f with
  | selectRank => exact absurd rfl hf.1
  | rankColumns => exact absurd rfl hf.2
  | scopeName | language => rfl
  | wildcard =>
    rw [OptionField.ofFlagText?, Option.isSome_map, Wildcard.ofWord?, isSome_find?_word]
    exact hchoice herror
  | operator =>
    rw [OptionField.ofFlagText?, Option.isSome_map, Operator.ofWord?, isSome_find?_word]
    exact hchoice herror
  | rankFunction =>
    rw [OptionField.ofFlagText?, Option.isSome_map, RankFunction.ofWord?, isSome_find?_word]
    exact hchoice herror
  | normalization =>
    rw [OptionField.ofFlagText?, Option.isSome_map]
    cases hn : readInteger s with
    | ok n => rfl
    | error kind => simp [OptionField.flag, hn] at herror

section
variable (hdeclared : ∀ e ∈ a.options, IsDeclared CompileOption.declared e.1 e.2.flag?)
include hdeclared

theorem exists_text_of_used {option : CompileOption} (hne : option ≠ .selectRank) (h : option ∈ a.used) :
    ∃ s, (option, .text s) ∈ a.options := by
  obtain ⟨g, hg⟩ := Arguments.mem_used.1 h
  cases g with
  | text s => exact ⟨s, hg⟩
  | flag b => exact absurd ((CompileOption.isSome_of_declared (hdeclared _ hg)).1 rfl) hne

theorem exists_flag_of_used (h : .selectRank ∈ a.used) : ∃ b, (.selectRank, .flag b) ∈ a.options := by
  obtain ⟨g, hg⟩ := Arguments.mem_used.1 h
  cases g with
  | flag b => exact ⟨b, hg⟩
  | text s => cases (CompileOption.isSome_of_declared (hdeclared _ hg)).2 rfl

/-- A flag that is present has a value, whatever that is. -/
theorem isSome_flagValue? (herror : ∀ option ∈ a.used, option.error? a = none) (f : OptionField) :
    (f.flagValue? a).isSome = true ↔ f.flag ∈ a.used := by
  have htext (hf : f ≠ .selectRank ∧ f ≠ .rankColumns) :
      ((a.text? f.flag).bind f.ofFlagText?).isSome = true ↔ f.flag ∈ a.used := by
    constructor
    · intro h
      obtain ⟨s, hs⟩ := Arguments.isSome_text?.1 (Option.isSome_of_isSome_bind h)
      exact Arguments.mem_used.2 ⟨_, hs⟩
    · intro h
      have hne : f.flag ≠ .selectRank := by
        obtain ⟨hf, -⟩ := hf
        cases f <;> simp [OptionField.flag] at hf ⊢
      obtain ⟨s, hs⟩ := Option.isSome_iff_exists.1 (Arguments.isSome_text?.2 (exists_text_of_used hdeclared hne h))
      rw [hs, Option.bind_some]
      exact isSome_ofFlagText? hf hs (herror _ h)
  cases f with
  | selectRank =>
    rw [OptionField.flagValue?, Option.isSome_map, Arguments.isSome_flag?]
    exact ⟨fun ⟨b, hb⟩ => Arguments.mem_used.2 ⟨_, hb⟩, exists_flag_of_used hdeclared⟩
  | rankColumns =>
    have hsome : (OptionField.rankColumns.flagValue? a).isSome = true ↔ ∃ s, s ∈ a.texts .rankColumn := by
      rw [OptionField.flagValue?]
      cases a.texts .rankColumn with
      | nil => simp
      | cons s rest => exact ⟨fun _ => ⟨s, List.mem_cons_self⟩, fun _ => rfl⟩
    rw [hsome]
    constructor
    · rintro ⟨s, hs⟩
      exact Arguments.mem_used.2 ⟨_, Arguments.mem_texts.1 hs⟩
    · intro h
      obtain ⟨s, hs⟩ := exists_text_of_used hdeclared (by decide) h
      exact ⟨s, Arguments.mem_texts.2 hs⟩
  | scopeName | wildcard | operator | normalization | language | rankFunction => exact htext (by decide)

end

/-! ## The command that is read -/

/-- The command takes over what flags are given for, and looks at their values before anything else. -/
theorem ofSorted_eq_ok (h : CompileCommand.ofSorted a = .ok c) :
    (∀ option ∈ a.used, option.error? a = none) ∧ a.rest = [c.searchText] ∧ a.texts .column ≠ [] ∧
      c.columns = a.texts .column ∧ c.format = ((a.text? .format).bind OutputFormat.ofWord?).getD .sql ∧
      c.overrides = Entries.ofFields OptionField.firstKey (·.flagValue? a) := by
  have hentries : CompileOption.overriding.filterMap (·.override? a) =
      Entries.ofFields OptionField.firstKey (·.flagValue? a) := by
    have hall : CompileOption.overriding = OptionField.all.map OptionField.flag := rfl
    rw [hall, List.filterMap_map, Entries.ofFields]
    exact congrArg (fun g => OptionField.all.filterMap g) (funext fun f => f.override?_flag a)
  simp only [CompileCommand.ofSorted] at h
  split at h
  · cases h
  · cases h
  · next text extra herror hrest =>
    split_ifs at h with hcolumns hextra
    cases h
    obtain rfl : extra = [] := by simpa using hextra
    have hne : a.texts .column ≠ [] := by simpa using hcolumns
    exact ⟨List.findSome?_eq_none_iff.1 herror, hrest, hne, rfl, rfl, hentries⟩

end CommandLine

/-! ## Flags and variables -/

namespace OptionField

/-- The name of an option's environment variable in small letters; the scope's name and the columns to rank by have
none. -/
def variableName? : OptionField → Option String
  | .scopeName | .rankColumns => none
  | f => some ("pg_search_" ++ f.name)

/-- What the environment holds for an option: the value of the last entry that has the variable's name, in letters of
any case. -/
def inEnvironment? (f : OptionField) (env : Environment) : Option String :=
  (env.filter fun e => some (Text.lowercase e.1) == f.variableName?).getLast?.map (·.2)

/-- The value of an option's variable, as the check of the option has it. -/
def validated? (f : OptionField) (env : Environment) : Option Value :=
  (f.inEnvironment? env).bind fun t => (f.check (.text t)).toOption

/-- The settings that options have their defaults from are read from the variables of these names. -/
theorem inEnvironment?_eq (f : OptionField) (env : Environment) : f.inEnvironment? env = f.variableText? env := by
  rw [inEnvironment?, List.getLast?_filter]
  cases f with
  | scopeName | rankColumns => exact congrArg (Option.map _) (List.find?_eq_none.2 fun _ _ => Bool.false_ne_true)
  | wildcard | operator | normalization | selectRank | language | rankFunction => rfl

end OptionField

namespace CommandLine

variable {env : Environment} {a : Arguments CompileOption} {c : CompileCommand} {s : Settings} {d o : Options}

/-- What flags and variables ask for: for an option the value of its flag, if that is present, or else the validated
value of its variable, if that is set. -/
def asked (a : Arguments CompileOption) (env : Environment) : Entries :=
  .ofFields OptionField.firstKey fun f => (f.flagValue? a).or (f.validated? env)

/-- What a check made of a variable passes the check again, and comes to the same. -/
theorem getD_validated? (hs : Settings.read [] env = .ok s) (hd : s.options .default = .ok d) (f : OptionField) :
    ((f.validated? env).map f.check).getD (.ok (Options.default.value f)) = .ok (d.value f) := by
  have hvalue := Settings.value_of_options hs hd f
  have hvalid : d.Valid := (Options.reachable_of_settings .default hd).valid
  rw [OptionField.validated?, OptionField.inEnvironment?_eq]
  cases ht : f.variableText? env with
  | none => rwa [ht] at hvalue
  | some t =>
    rw [ht, Option.map_some, Option.getD_some] at hvalue
    rw [Option.bind_some, hvalue]
    exact Options.check_value hvalid f

/-- Settings come to options only if all variables that are set pass their checks. -/
theorem isSome_validated? (hs : Settings.read [] env = .ok s) (hd : s.options .default = .ok d) (f : OptionField) :
    (f.validated? env).isSome = true ↔ (f.inEnvironment? env).isSome = true := by
  have hvalue := Settings.value_of_options hs hd f
  rw [OptionField.validated?, OptionField.inEnvironment?_eq]
  cases ht : f.variableText? env with
  | none => rfl
  | some t =>
    rw [ht, Option.map_some, Option.getD_some] at hvalue
    rw [Option.bind_some, hvalue]
    exact iff_of_true rfl rfl

/-- Flags laid over options of settings come to what flags and variables together come to over the default options. -/
theorem resolve_asked (hs : Settings.read [] env = .ok s) (hd : s.options .default = .ok d)
    (ho : d.resolve (.entries (.ofFields OptionField.firstKey (·.flagValue? a))) = .ok o) :
    Options.default.resolve (.entries (asked a env)) = .ok o := by
  refine Options.resolve_ofFields OptionField.firstKey_mem_keys fun f => ?_
  have hflag := Options.value_of_resolve ho f
  rw [Overrides.setting?, Entries.given?_ofFields OptionField.firstKey_mem_keys, Option.map_map] at hflag
  cases hv : f.flagValue? a with
  | some v =>
    rw [hv] at hflag
    exact hflag
  | none =>
    rw [hv] at hflag
    rw [Option.none_or, getD_validated? hs hd]
    exact hflag

/-! ## Runs -/

/-- That arguments are those of the compile command, sorted as given. -/
def SortedAs (args : List String) (a : Arguments CompileOption) : Prop :=
  ∃ common rest, Arguments.collect CommonOption.declared false args = .ok common ∧ common.flag? .version = none ∧
    common.rest = "compile" :: rest ∧ Arguments.collect CompileOption.declared true rest = .ok a

/-- A run that succeeds has read its arguments and settings, and has found a plan. -/
theorem exists_plan_of_run {args : List String} (hargs : SortedAs args a) (h : (run env args).exitCode = 0) :
    ∃ c columns s p text, CompileCommand.ofSorted a = .ok c ∧ columnsOf (c.columns.map Value.text) = .ok columns ∧
      Settings.read [] env = .ok s ∧ c.plan columns s = .ok p ∧ c.output columns p = .ok text ∧
      run env args = .printed (text ++ "\n") := by
  obtain ⟨common, rest, hcommon, hversion, hrest, ha⟩ := hargs
  cases hc : CompileCommand.ofSorted a with
  | error e =>
    have hread : CompileCommand.ofArguments rest = .error e := by simp only [CompileCommand.ofArguments, ha]; exact hc
    simp only [run, withCommon, hcommon, hversion, hrest, runCommand, runCompile, hread] at h
    cases hlevel : logLevelMessage env (common.text? .logLevel) <;> simp [hlevel, Outcome.exitCode, Outcome.failed] at h
  | ok c =>
    have hread : CompileCommand.ofArguments rest = .ok c := bind_eq_ok.2 ⟨a, ha, hc⟩
    have haccepts : Accepts args (common.text? .logLevel) c := ⟨common, rest, hcommon, hversion, rfl, hrest, hread⟩
    rcases (endsWell_or_run_refused haccepts env) with hwell | ⟨faults, hrefused⟩
    · generalize run env args = outcome at hwell h ⊢
      cases hwell with
      | printed hcolumns hsettings hplan htext =>
        exact ⟨c, _, _, _, _, rfl, hcolumns, hsettings, hplan, htext, rfl⟩
      | badLevel => cases h
      | failed => cases h
    · rw [hrefused] at h
      cases h

/-- **Flags go over variables, and variables over defaults.**  A run that succeeds prints the summary of the search that
asks for what flags and variables say, over the default options; that summary is what can be read from the printed text.
A flag that is present counts whatever its value is, and a variable that is set is validated even where a flag goes over
it.  The scope's name and the columns to rank by have no variable. -/
theorem run_eq_describe {args : List String} (hargs : SortedAs args a) (hformat : a.text? .format = some "json")
    (h : (run env args).exitCode = 0) :
    (∃ text p printed, a.rest = [text] ∧
      Plan.compile ((a.texts .column).map .text) (some text) .default (.entries (asked a env)) = .ok p ∧
      run env args = .printed printed ∧ printed = p.describe.pretty ++ "\n" ∧ Json.read? printed = some p.describe) ∧
    (∀ f : OptionField, (f.flagValue? a).isSome = true ↔ f.flag ∈ a.used) ∧
    ∀ f : OptionField, (f.validated? env).isSome = true ↔ (f.inEnvironment? env).isSome = true := by
  obtain ⟨c, columns, s, p, text, hc, hcolumns, hsettings, hplan, htext, hrun⟩ := exists_plan_of_run hargs h
  obtain ⟨herror, hrest, hne, hcolumnsEq, hform, hoverrides⟩ := ofSorted_eq_ok hc
  obtain ⟨d, hd, hcompile⟩ := bind_eq_ok.1 hplan
  rw [hoverrides] at hcompile
  obtain ⟨-, o, ho, hp⟩ := Plan.compile_eq_ok.1 hcompile
  refine ⟨⟨c.searchText, p, _, hrest, Plan.compile_eq_ok.2 ⟨by simpa using hne, o, resolve_asked hsettings hd ho, ?_⟩,
    ?_, rfl, Json.read?_pretty p.describe⟩, isSome_flagValue? ?_ herror, isSome_validated? hsettings hd⟩
  · have hsame : columnsOf ((a.texts .column).map Value.text) = columnsOf (columns.map .column) := by
      rw [← hcolumnsEq, hcolumns, columnsOf_columns]
    rw [Plan.ofOptions_congr hsame]
    exact hp
  · have hjson : c.format = .json := by
      rw [hform, hformat]
      rfl
    rw [CompileCommand.output, hjson] at htext
    cases htext
    exact hrun
  · obtain ⟨-, rest, -, -, -, ha⟩ := hargs
    exact declared_of_collectFrom (by simp) ha

/-- A flag that is off, a zero and an empty name go over variables that say otherwise, beside a variable that no flag
goes over. -/
theorem run_eq_describe_falsy :
    let env : Environment := [("PG_SEARCH_SELECT_RANK", "true"), ("PG_SEARCH_NORMALIZATION", "4"),
      ("PG_SEARCH_OPERATOR", "or")]
    let args := ["compile", "cat dog", "-c", "name", "--no-select-rank", "--normalization", "0", "--as", "",
      "--format", "json"]
    let printed := "\x7b\n  \"scope_name\": \"search_by_name\",\n  \"filter\": \x7b\n    \"columns\": [\n" ++
      "      \"name\"\n    ],\n    \"language\": \"simple\",\n    \"operator\": \"or\",\n    \"terms\": [\n" ++
      "      \"cat:*\",\n      \"dog:*\"\n    ],\n    \"tsquery\": \"'cat':* | 'dog':*\"\n  \x7d,\n" ++
      "  \"rank\": \x7b\n    \"function\": \"ts_rank\",\n    \"columns\": [\n      \"name\"\n    ],\n" ++
      "    \"normalization\": 0\n  \x7d,\n  \"project_rank_as\": null,\n  \"order_by_rank_desc\": true,\n" ++
      "  \"zero_rank_projection\": false\n\x7d\n"
    ∃ a, SortedAs args a ∧ a.text? .format = some "json" ∧ (run env args).exitCode = 0 ∧
      OptionField.selectRank.flagValue? a = some (.bool false) ∧
      OptionField.normalization.flagValue? a = some (.int 0) ∧ OptionField.scopeName.flagValue? a = some (.text "") ∧
      OptionField.operator.flagValue? a = none ∧ OptionField.operator.inEnvironment? env = some "or" ∧
      ∃ p, Plan.compile [.text "name"] (some "cat dog") .default (.entries (asked a env)) = .ok p ∧
        run env args = .printed printed ∧ Json.read? printed = some p.describe := by
  intro env args printed
  let a : Arguments CompileOption := ⟨[(.column, .text "name"), (.selectRank, .flag false), (.normalization, .text "0"),
    (.scopeName, .text ""), (.format, .text "json")], ["cat dog"]⟩
  have hargs : SortedAs args a := by
    refine ⟨{ rest := args }, _, ?_, rfl, rfl, ?_⟩
    · cbv
    · cbv
  have hcode : (run env args).exitCode = 0 := by decide +kernel
  have hzero : OptionField.normalization.flagValue? a = some (.int 0) := by
    have htext : a.text? .normalization = some "0" := by decide
    have hread : readInteger "0" = .ok 0 := by cbv
    simp only [OptionField.flagValue?, OptionField.flag, htext, Option.bind_some, OptionField.ofFlagText?, hread]
    rfl
  have hor : OptionField.operator.inEnvironment? env = some "or" := by decide +kernel
  have houtput : (run env args).output = printed := by decide +kernel
  obtain ⟨⟨text, p, printed', hrest, hp, hrun, -, hread⟩, -, -⟩ := run_eq_describe hargs (by cbv) hcode
  obtain rfl : text = "cat dog" := by simpa [a] using hrest.symm
  obtain rfl : printed' = printed := by rw [← houtput, hrun, Outcome.printed, Outcome.output]
  exact ⟨a, hargs, by cbv, hcode, by cbv, hzero, by cbv, by cbv, hor, p, hp, hrun, hread⟩

end CommandLine

end FullText
