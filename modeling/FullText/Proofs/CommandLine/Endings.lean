import FullText.CommandLine.Run
import FullText.Proofs.Settings
import FullText.Proofs.Sql.AdHoc

/-!
# How the compile command ends

A run of the compile command prints what it was asked for, or says on one line of errors why it cannot.  Settings are
read twice: for the level of the log, unless one is given, and by the command itself, where nobody reports their faults.

* `exists_errorLine` — a failure is reported on a line that begins with `Error: `.
* `CompileCommand.exists_output` — every plan of the command can be printed.
* `CompileCommand.isReported_of_failsWith` — what the command fails with is an error that it reports.
* `Accepts` — that arguments are a command line of the compile command.
* `CompileCommand.EndsWell` — what may come of a run.
* `endsWell_or_refused` — it does, except where a level of the log is given and settings cannot be read.
-/

namespace FullText.CommandLine

open Text

/-! ## The line of a failure -/

theorem withoutEscapes_append {cs : List Char} (h : '\\' ∉ cs) (ds : List Char) :
    withoutEscapes (cs ++ ds) = cs ++ withoutEscapes ds := by
  induction cs with
  | nil => rfl
  | cons c rest ih =>
    rw [List.mem_cons, not_or] at h
    rw [List.cons_append, withoutEscapes, ih h.2, List.cons_append]
    rintro ds' rfl
    exact absurd rfl h.1

theorem withoutTabs_append {cs : List Char} (h : ∀ c ∈ cs, c ≠ '\t' ∧ c ≠ '\n') (column : Nat) (ds : List Char) :
    withoutTabs column (cs ++ ds) = cs ++ withoutTabs (column + cs.length) ds := by
  induction cs generalizing column with
  | nil => rfl
  | cons c rest ih =>
    rw [List.forall_mem_cons] at h
    rw [List.cons_append, withoutTabs, if_neg h.1.1, if_neg h.1.2, ih h.2, List.length_cons, List.cons_append,
      Nat.add_assoc, Nat.add_comm 1]

/-- A failure is reported on a line that begins with `Error: `, whatever the message holds. -/
theorem exists_errorLine (message : String) : ∃ reason, errorLine message = "Error: " ++ reason ++ "\n" := by
  have hescapes : '\\' ∉ "Error: ".toList := by simp
  have hmoves : "Error: ".toList.filter (fun c => !movesCursor c) = "Error: ".toList := by simp [movesCursor]
  have htabs : ∀ c ∈ "Error: ".toList, c ≠ '\t' ∧ c ≠ '\n' := by simp
  refine ⟨String.ofList (withoutTabs (0 + "Error: ".toList.length)
    ((withoutEscapes message.toList).filter fun c => !movesCursor c)), ?_⟩
  unfold errorLine shown
  rw [String.toList_append, withoutEscapes_append hescapes, List.filter_append, hmoves, withoutTabs_append htabs,
    String.ofList_append, String.ofList_toList]

/-! ## Errors of the command -/

/-- The errors that the command reports: those of a search, and values that name no column. -/
def isReported : Error → Bool
  | .noColumns _ | .notColumn _ | .noTerms | .invalidOption .. | .scopeTaken _ | .unknownScope _ => true
  | .missingColumn _ | .namelessRepeated | .notMember .. | .rejected .. => false

namespace CompileCommand

variable {c : CompileCommand} {env : Environment} {columns : List Column} {s : Settings} {p : Plan} {e : Error}

/-- That the command fails with an error. -/
def FailsWith (c : CompileCommand) (env : Environment) (e : Error) : Prop :=
  columnsOf (c.columns.map Value.text) = .error e ∨
    ∃ columns s, columnsOf (c.columns.map Value.text) = .ok columns ∧ Settings.read [] env = .ok s ∧
      c.runWith columns s = .error e

theorem exists_output (hp : c.plan columns s = .ok p) : ∃ text, c.output columns p = .ok text := by
  obtain ⟨defaults, -, hcompile⟩ := bind_eq_ok.1 hp
  unfold output
  cases c.format with
  | json => exact ⟨_, rfl⟩
  | sql => exact Plan.exists_sqlOver hcompile c.tableName

theorem isReported_of_plan (h : c.plan columns s = .error e) : isReported e = true := by
  unfold plan at h
  cases hdefaults : s.options Options.default with
  | error e' =>
    rw [hdefaults] at h
    cases h
    obtain ⟨option, value, reason, rfl⟩ := Plan.resolve_eq_error hdefaults
    rfl
  | ok defaults =>
    rw [hdefaults] at h
    rcases Plan.error_of_compile h with rfl | ⟨option, value, reason, rfl⟩ | ⟨v, -, rfl⟩
    · rfl
    · rfl
    · rfl

theorem plan_of_runWith (h : c.runWith columns s = .error e) : c.plan columns s = .error e := by
  unfold runWith at h
  cases hp : c.plan columns s with
  | error e' =>
    rw [hp] at h
    cases h
    rfl
  | ok p =>
    obtain ⟨text, htext⟩ := exists_output hp
    rw [hp] at h
    change c.output columns p = .error e at h
    rw [htext] at h
    cases h

theorem isReported_of_failsWith (h : c.FailsWith env e) : isReported e = true := by
  rcases h with h | ⟨columns, s, -, -, h⟩
  · obtain ⟨v, -, rfl⟩ := Plan.columnsOf_eq_error h
    rfl
  · exact isReported_of_plan (plan_of_runWith h)

/-! ## Endings -/

/-- How a run of the command may end, with a level of the log that may be given. -/
inductive EndsWell (c : CompileCommand) (env : Environment) (level : Option String) : Outcome → Prop where
  /-- With the SQL or the summary of the plan. -/
  | printed {columns : List Column} {s : Settings} {p : Plan} {text : String}
      (hcolumns : columnsOf (c.columns.map Value.text) = .ok columns) (hsettings : Settings.read [] env = .ok s)
      (hplan : c.plan columns s = .ok p) (htext : c.output columns p = .ok text) :
      EndsWell c env level (.finished 0 (text ++ "\n") "")
  /-- With a line on the level of the log. -/
  | badLevel {message reason : String} (h : logLevelMessage env level = some message)
      (hreason : errorLine ("invalid log level: " ++ message) = "Error: " ++ reason ++ "\n") :
      EndsWell c env level (.finished 1 "" ("Error: " ++ reason ++ "\n"))
  /-- With a line on an error that the command reports. -/
  | failed {e : Error} {reason : String} (h : c.FailsWith env e) (he : isReported e = true)
      (hreason : errorLine e.message = "Error: " ++ reason ++ "\n") :
      EndsWell c env level (.finished 1 "" ("Error: " ++ reason ++ "\n"))

theorem EndsWell.ne_refused {level : Option String} {o : Outcome} (h : c.EndsWell env level o) (faults : List Fault) :
    o ≠ .refused faults := by
  cases h <;> simp

theorem EndsWell.of_failsWith (h : c.FailsWith env e) (level : Option String) :
    c.EndsWell env level (.failed e.message) := by
  obtain ⟨reason, hreason⟩ := exists_errorLine e.message
  rw [Outcome.failed, hreason]
  exact .failed h (isReported_of_failsWith h) hreason

theorem EndsWell.of_logLevelMessage {level : Option String} {message : String}
    (h : logLevelMessage env level = some message) (c : CompileCommand) :
    c.EndsWell env level (.failed ("invalid log level: " ++ message)) := by
  obtain ⟨reason, hreason⟩ := exists_errorLine ("invalid log level: " ++ message)
  rw [Outcome.failed, hreason]
  exact .badLevel h hreason

theorem run_of_columns_error (h : columnsOf (c.columns.map Value.text) = .error e) :
    c.run env = .failed e.message := by
  unfold run
  rw [h]

theorem run_of_settings_error {faults : List Fault} (hcolumns : columnsOf (c.columns.map Value.text) = .ok columns)
    (h : Settings.read [] env = .error faults) : c.run env = .refused faults := by
  unfold run
  rw [hcolumns, h]

theorem endsWell_run (hcolumns : columnsOf (c.columns.map Value.text) = .ok columns)
    (hsettings : Settings.read [] env = .ok s) (level : Option String) : c.EndsWell env level (c.run env) := by
  cases hrun : c.runWith columns s with
  | error e =>
    have hfailed : c.run env = .failed e.message := by simp only [run, hcolumns, hsettings, hrun]
    rw [hfailed]
    exact .of_failsWith (.inr ⟨columns, s, hcolumns, hsettings, hrun⟩) level
  | ok text =>
    have hprinted : c.run env = .printed (text ++ "\n") := by simp only [run, hcolumns, hsettings, hrun]
    obtain ⟨p, hp, htext⟩ := bind_eq_ok.1 hrun
    rw [hprinted]
    exact .printed hcolumns hsettings hp htext

theorem endsWell_or_run_refused (c : CompileCommand) (env : Environment) (level : Option String) :
    c.EndsWell env level (c.run env) ∨
      ∃ columns faults, columnsOf (c.columns.map Value.text) = .ok columns ∧ Settings.read [] env = .error faults ∧
        c.run env = .refused faults := by
  cases hcolumns : columnsOf (c.columns.map Value.text) with
  | error e =>
    rw [run_of_columns_error hcolumns]
    exact .inl (.of_failsWith (.inl hcolumns) level)
  | ok columns =>
    cases hsettings : Settings.read [] env with
    | error faults => exact .inr ⟨columns, faults, rfl, rfl, run_of_settings_error hcolumns hsettings⟩
    | ok s => exact .inl (endsWell_run hcolumns hsettings level)

theorem run_eq_refused_iff {faults : List Fault} :
    c.run env = .refused faults ↔
      (∃ columns, columnsOf (c.columns.map Value.text) = .ok columns) ∧ Settings.read [] env = .error faults := by
  constructor
  · intro h
    rcases endsWell_or_run_refused c env none with hwell | ⟨columns, faults', hcolumns, hsettings, hrun⟩
    · exact absurd h (hwell.ne_refused faults)
    · obtain rfl : faults' = faults := Outcome.refused.inj (hrun.symm.trans h)
      exact ⟨⟨columns, hcolumns⟩, hsettings⟩
  · rintro ⟨⟨columns, hcolumns⟩, hsettings⟩
    exact run_of_settings_error hcolumns hsettings

/-- Without settings the command prints nothing but errors. -/
theorem exitCode_run_of_settings_error (c : CompileCommand) {faults : List Fault}
    (h : Settings.read [] env = .error faults) :
    (c.run env).exitCode = 1 ∧ (c.run env).output = "" := by
  cases hcolumns : columnsOf (c.columns.map Value.text) with
  | error e =>
    rw [run_of_columns_error hcolumns]
    exact ⟨rfl, rfl⟩
  | ok columns =>
    rw [run_of_settings_error hcolumns h]
    exact ⟨rfl, rfl⟩

end CompileCommand

/-! ## The level of the log -/

section
variable {env : Environment} {level : Option String}

/-- The level that the log is to have: the one given, if it is a name, or else the configured one. -/
def effectiveLevel (env : Environment) (level : Option String) : String :=
  (level.filter (· ≠ "")).getD (configuredLevel env)

theorem ne_empty_of_levelMessage {l : String} (h : levelMessage l = none) : l ≠ "" := by
  rintro rfl
  revert h
  decide

theorem filter_of_levelMessage {l : String} (h : levelMessage l = none) : (some l).filter (· ≠ "") = some l := by
  simp [ne_empty_of_levelMessage h]

theorem logLevelMessage_of_given {l : String} (h : levelMessage l = none) : logLevelMessage env (some l) = none := by
  rw [logLevelMessage, filter_of_levelMessage h]
  exact h

theorem effectiveLevel_of_given {l : String} (h : levelMessage l = none) : effectiveLevel env (some l) = l := by
  rw [effectiveLevel, filter_of_levelMessage h, Option.getD_some]

/-- A level that exists passes, unless it would have to come from settings that cannot be read. -/
theorem logLevelMessage_of_effectiveLevel (h : levelMessage (effectiveLevel env level) = none) :
    logLevelMessage env level = none ∨
      ∃ faults, Settings.read [] env = .error faults ∧ logLevelMessage env level = some (faultReport faults) := by
  unfold effectiveLevel at h
  unfold logLevelMessage
  cases hgiven : level.filter (· ≠ "") with
  | some l =>
    rw [hgiven] at h
    exact .inl h
  | none =>
    rw [hgiven] at h
    cases hsettings : Settings.read [] env with
    | error faults => exact .inr ⟨faults, rfl, rfl⟩
    | ok s =>
      rw [← Settings.logLevel_of_read hsettings] at h
      exact .inl h

/-- A level passes over settings that cannot be read only if it is given. -/
theorem exists_given_of_logLevelMessage {faults : List Fault} (h : logLevelMessage env level = none)
    (hsettings : Settings.read [] env = .error faults) : ∃ l, level = some l ∧ levelMessage l = none := by
  unfold logLevelMessage at h
  cases hgiven : level.filter (· ≠ "") with
  | some l =>
    rw [hgiven] at h
    exact ⟨l, (Option.filter_eq_some_iff.1 hgiven).1, h⟩
  | none =>
    rw [hgiven, hsettings] at h
    cases h

end

/-! ## Command lines -/

/-- That arguments are a command line of the compile command: the level of the log that they give, if any, and the
command. -/
def Accepts (args : List String) (level : Option String) (c : CompileCommand) : Prop :=
  ∃ a rest, Arguments.collect CommonOption.declared false args = .ok a ∧ a.flag? .version = none ∧
    a.text? .logLevel = level ∧ a.rest = "compile" :: rest ∧ CompileCommand.ofArguments rest = .ok c

section
variable {env : Environment} {args : List String} {level : Option String} {c : CompileCommand}

theorem collect_logLevel (l : String) {a : Arguments CommonOption}
    (h : Arguments.collect CommonOption.declared false args = .ok a) :
    Arguments.collect CommonOption.declared false ("--log-level" :: l :: args) =
      .ok { a with options := (.logLevel, .text l) :: a.options } := by
  have hoption : readOption CommonOption.declared "--log-level" =
      .ok { pending := some ⟨"--log-level", .logLevel⟩ } := by
    cbv
  unfold Arguments.collect at h ⊢
  have hdashes : Arguments.isOption "--log-level" = true := by cbv
  rw [Arguments.collectFrom, if_neg (by decide), if_pos hdashes, hoption]
  refine bind_eq_ok.2 ⟨_, rfl, bind_eq_ok.2 ⟨{ a with options := (.logLevel, .text l) :: a.options }, ?_, rfl⟩⟩
  rw [Arguments.collectFrom]
  exact bind_eq_ok.2 ⟨a, h, rfl⟩

/-- A level may be put in front; it counts unless there is one already. -/
theorem Accepts.cons_logLevel (h : Accepts args level c) (l : String) :
    Accepts ("--log-level" :: l :: args) (some (level.getD l)) c := by
  obtain ⟨a, rest, ha, hversion, rfl, hrest, hc⟩ := h
  refine ⟨_, rest, collect_logLevel l ha, hversion, ?_, hrest, hc⟩
  show (l :: a.texts .logLevel).getLast? = _
  rw [List.getLast?_cons]
  rfl

theorem run_of_accepts (h : Accepts args level c) (env : Environment) :
    ∃ rest, CompileCommand.ofArguments rest = .ok c ∧ run env args = runCommand env level "compile" rest := by
  obtain ⟨a, rest, ha, hversion, rfl, hrest, hc⟩ := h
  have hnot : ¬ (a.flag? .version).isSome = true := by simp [hversion]
  exact ⟨rest, hc, by simp only [run, withCommon, ha, if_neg hnot, hrest]⟩

theorem run_of_badLevel (h : Accepts args level c) {message : String}
    (hlevel : logLevelMessage env level = some message) :
    run env args = .failed ("invalid log level: " ++ message) := by
  obtain ⟨rest, -, hrun⟩ := run_of_accepts h env
  rw [hrun, runCommand, if_pos rfl, hlevel]

theorem run_of_goodLevel (h : Accepts args level c) (hlevel : logLevelMessage env level = none) :
    run env args = c.run env := by
  obtain ⟨rest, hc, hrun⟩ := run_of_accepts h env
  rw [hrun, runCommand, if_pos rfl, hlevel]
  simp only [runCompile, hc]

theorem endsWell_or_run_refused (h : Accepts args level c) (env : Environment) :
    c.EndsWell env level (run env args) ∨ ∃ faults, run env args = .refused faults := by
  cases hlevel : logLevelMessage env level with
  | some message =>
    rw [run_of_badLevel h hlevel]
    exact .inl (.of_logLevelMessage hlevel c)
  | none =>
    rw [run_of_goodLevel h hlevel]
    rcases c.endsWell_or_run_refused env level with hwell | ⟨columns, faults, -, -, hrun⟩
    · exact .inl hwell
    · exact .inr ⟨faults, hrun⟩

theorem run_eq_refused_iff (h : Accepts args level c) (env : Environment) (faults : List Fault) :
    run env args = .refused faults ↔
      (∃ l, level = some l ∧ levelMessage l = none) ∧
      (∃ columns, columnsOf (c.columns.map Value.text) = .ok columns) ∧ Settings.read [] env = .error faults := by
  cases hlevel : logLevelMessage env level with
  | some message =>
    rw [run_of_badLevel h hlevel]
    refine ⟨nofun, ?_⟩
    rintro ⟨⟨l, rfl, hl⟩, -⟩
    rw [logLevelMessage_of_given hl] at hlevel
    cases hlevel
  | none =>
    rw [run_of_goodLevel h hlevel]
    refine CompileCommand.run_eq_refused_iff.trans ⟨fun hboth => ?_, fun hall => hall.2⟩
    exact ⟨exists_given_of_logLevelMessage hlevel hboth.2, hboth⟩

/-- Under a level that exists, a command line has the exit code and the output of its command. -/
theorem exitCode_of_effectiveLevel (h : Accepts args level c)
    (hlevel : levelMessage (effectiveLevel env level) = none) :
    (run env args).exitCode = (c.run env).exitCode ∧ (run env args).output = (c.run env).output := by
  rcases logLevelMessage_of_effectiveLevel hlevel with hnone | ⟨faults, hsettings, hsome⟩
  · rw [run_of_goodLevel h hnone]
    exact ⟨rfl, rfl⟩
  · obtain ⟨hcode, houtput⟩ := c.exitCode_run_of_settings_error hsettings
    rw [run_of_badLevel h hsome, hcode, houtput]
    exact ⟨rfl, rfl⟩

/-- **How the compile command ends.**  It ends well, or settings are refused.  They are just when a level of the log is
given that exists, all columns are named, and the variables hold a normalization or a choice to show the score that
cannot be read.  A given level that exists makes no other difference than one that is configured. -/
theorem endsWell_or_refused (h : Accepts args level c) (env : Environment) :
    (c.EndsWell env level (run env args) ∨ ∃ faults, run env args = .refused faults) ∧
    (∀ faults, run env args = .refused faults ↔
      (∃ l, level = some l ∧ levelMessage l = none) ∧
      (∃ columns, columnsOf (c.columns.map Value.text) = .ok columns) ∧ Settings.read [] env = .error faults) ∧
    (∀ faults, run env args = .refused faults → ∀ fault ∈ faults,
      fault.location = SettingField.normalization.name ∨ fault.location = SettingField.selectRank.name) ∧
    -- the same command with another level
    (levelMessage (effectiveLevel env level) = none → ∀ args' l, Accepts args' (some l) c → levelMessage l = none →
      (run env args').exitCode = (run env args).exitCode ∧ (run env args').output = (run env args).output) ∧
    ∀ l, Accepts ("--log-level" :: l :: args) (some (level.getD l)) c := by
  refine ⟨endsWell_or_run_refused h env, run_eq_refused_iff h env, fun faults hrun => ?_, ?_, h.cons_logLevel⟩
  · exact Settings.location_of_read ((run_eq_refused_iff h env faults).1 hrun).2.2
  · intro hlevel args' l h' hl
    have hlevel' : levelMessage (effectiveLevel env (some l)) = none := by rwa [effectiveLevel_of_given hl]
    obtain ⟨hcode, houtput⟩ := exitCode_of_effectiveLevel h hlevel
    obtain ⟨hcode', houtput'⟩ := exitCode_of_effectiveLevel h' hlevel'
    exact ⟨hcode'.trans hcode.symm, houtput'.trans houtput.symm⟩

end

/-- A word over one column, under settings of their own, and the same with a level of the log. -/
theorem endsWell_or_refused_debug :
    ∃ c : CompileCommand, Accepts ["compile", "cat", "-c", "name"] none c ∧
      c.EndsWell [] none (run [] ["compile", "cat", "-c", "name"]) ∧
      (run [] ["--log-level", "debug", "compile", "cat", "-c", "name"]).exitCode =
        (run [] ["compile", "cat", "-c", "name"]).exitCode ∧
      (run [] ["--log-level", "debug", "compile", "cat", "-c", "name"]).output =
        (run [] ["compile", "cat", "-c", "name"]).output := by
  have hc : CompileCommand.ofArguments ["cat", "-c", "name"] = .ok { searchText := "cat", columns := ["name"] } := by
    cbv
  have haccepts : Accepts ["compile", "cat", "-c", "name"] none { searchText := "cat", columns := ["name"] } := by
    refine ⟨{ rest := ["compile", "cat", "-c", "name"] }, _, ?_, rfl, rfl, rfl, hc⟩
    cbv
  obtain ⟨hends, hrefused, -, hlevel, hcons⟩ := endsWell_or_refused haccepts []
  refine ⟨_, haccepts, ?_, hlevel (by decide +kernel) _ "debug" (hcons "debug") (by decide +kernel)⟩
  rcases hends with hwell | ⟨faults, hrun⟩
  · exact hwell
  · obtain ⟨⟨l, hl, -⟩, -⟩ := (hrefused faults).1 hrun
    cases hl

/-- That a command names its table and all columns that it is given. -/
structure CompileCommand.Named (c : CompileCommand) : Prop where
  table : c.tableName ≠ ""
  columns : ∀ cs, columnsOf (c.columns.map Value.text) = .ok cs → ∀ x ∈ cs, x.name ≠ ""
  rankColumns : ∀ values cs, (OptionField.rankColumns.name, .list values) ∈ c.overrides →
    columnsOf values = .ok cs → ∀ x ∈ cs, x.name ≠ ""

/-- A normalization that is no number is not reported where a level of the log is given. -/
theorem not_endsWell_normalization :
    ¬ ∀ (env : Environment) (args : List String) (level : Option String) (c : CompileCommand),
      Accepts args level c → c.Named → c.EndsWell env level (run env args) := by
  intro h
  let c : CompileCommand := { searchText := "cat", columns := ["name"] }
  have haccepts : Accepts ["--log-level", "INFO", "compile", "cat", "-c", "name"] (some "INFO") c := by
    refine ⟨⟨[(.logLevel, .text "INFO")], ["compile", "cat", "-c", "name"]⟩, ["cat", "-c", "name"], ?_, rfl, rfl,
      rfl, ?_⟩
    · cbv
    · cbv
  have hcolumns : columnsOf (c.columns.map Value.text) = .ok [⟨"name", none⟩] := by cbv
  have hnamed : c.Named := by
    refine ⟨by decide, fun cs hcs => ?_, fun values cs hmem => absurd hmem List.not_mem_nil⟩
    obtain rfl := Except.ok.inj (hcolumns.symm.trans hcs)
    decide
  have hvalue : SettingField.normalization.ofEnvironment? [("PG_SEARCH_NORMALIZATION", "abc")] = some "abc" := by
    decide +kernel
  have hfault : SettingField.normalization.fault? [] [("PG_SEARCH_NORMALIZATION", "abc")] =
      some ⟨"normalization", .unreadableInteger, .text "abc"⟩ := by
    have hkind : SettingField.normalization.kind? (.text "abc") = some .unreadableInteger := by decide +kernel
    rw [SettingField.fault?, SettingField.value?_of_nothing, hvalue, Option.map_some]
    simp only [Option.bind_eq_bind, Option.bind_some, hkind]
    rfl
  obtain ⟨faults, hsettings⟩ := Settings.exists_read_eq_error hfault
  have hrun := (run_eq_refused_iff haccepts _ faults).2 ⟨⟨"INFO", rfl, by decide +kernel⟩, ⟨_, hcolumns⟩, hsettings⟩
  exact (h _ _ _ c haccepts hnamed).ne_refused faults hrun

end FullText.CommandLine
