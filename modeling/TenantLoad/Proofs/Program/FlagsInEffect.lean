import TenantLoad.Proofs.CommandLine.LoadRun
import TenantLoad.Proofs.Program.Precedence

/-!
# Flags in effect

The settings of a load run have the values of all flags that are in effect: those
behind the command `run`, or all of them if there is no such command.  A flag
before the command need not have an effect.
-/

namespace TenantLoad

open CommandLine (Arguments Flag FlagKind RunFlags ValueKind Values wordsInEffect)
open Config (Setting)

namespace Config.Setting

/-- The name of the flag of a load run that gives a setting its value. -/
def flagName? : Setting → Option String
  | .baseUrl => some "base-url"
  | .tenants => some "tenants"
  | .tablesPerTenant => some "tables-per-tenant"
  | .rowsPerTable => some "rows-per-table"
  | .rowConcurrency => some "row-concurrency"
  | .searchRequests => some "search-requests"
  | .searchConcurrency => some "search-concurrency"
  | .seed => some "seed"
  | .outputPath => some "output"
  | .maxAttempts | .jitterMin | .jitterMax | .statuses | .bodyPattern | .timeout
  | .connectTimeout | .userAgent | .maxIdlePerHost | .level | .format | .includeLocation
  | .pretty => none

end Config.Setting

namespace CommandLine

variable {values : Values} {flag : Flag} {text : String}

theorem Values.Has.text?_of_text
    (has : Values.Has values flag .text text) :
    Values.text? values flag.name = some text := by
  obtain ⟨value, isRead, found⟩ := has
  cases isRead
  simp [Values.text?, found]

theorem Values.Has.text?_of_path
    (has : Values.Has values flag .path text) :
    Values.text? values flag.name = some text := by
  obtain ⟨value, isRead, found⟩ := has
  simp only [ValueKind.read] at isRead
  split at isRead
  · cases isRead
  · cases isRead
    simp [Values.text?, found]

theorem Values.Has.count?_of_count
    (has : Values.Has values flag (.count 64) text) :
    ∃ number, (Text.word64 text).toOption = some number ∧
      Values.count? values flag.name = some number := by
  obtain ⟨value, isRead, found⟩ := has
  simp only [ValueKind.read] at isRead
  split at isRead
  next number isNumber =>
    cases isRead
    exact ⟨UInt64.ofNat number, by simp [Text.word64, isNumber, Except.map, Except.toOption],
      by simp [Values.count?, found]⟩
  · cases isRead

theorem RunFlags.takesValue_of_mem : ∀ flag ∈ RunFlags.grammar, flag.takesValue = true := by
  decide

/-- The value of a flag of a load run is that of its setting. -/
theorem RunFlags.given?_ofValues
    {kind : ValueKind}
    (isRunFlag : flag ∈ RunFlags.grammar)
    (takes : flag.kind = .value kind)
    (has : Values.Has values flag kind text)
    (level : Option String) :
    ∃ setting : Setting, setting.flagName? = some flag.name ∧
      ∃ value, setting.ofText? text = some value ∧
        setting.given? level (RunFlags.ofValues values) = some value := by
  simp only [RunFlags.grammar, List.mem_cons, List.not_mem_nil, or_false] at isRunFlag
  obtain rfl | rfl | rfl | rfl | rfl | rfl | rfl | rfl | rfl := isRunFlag <;> cases takes
  · exact ⟨.baseUrl, rfl, text, rfl, has.text?_of_text⟩
  · exact ⟨.tenants, rfl, has.count?_of_count⟩
  · exact ⟨.tablesPerTenant, rfl, has.count?_of_count⟩
  · exact ⟨.rowsPerTable, rfl, has.count?_of_count⟩
  · exact ⟨.rowConcurrency, rfl, has.count?_of_count⟩
  · exact ⟨.searchRequests, rfl, has.count?_of_count⟩
  · exact ⟨.searchConcurrency, rfl, has.count?_of_count⟩
  · obtain ⟨number, isNumber, found⟩ := has.count?_of_count
    exact ⟨.seed, rfl, some number, congrArg (Option.map some) isNumber,
      congrArg (Option.map some) found⟩
  · exact ⟨.outputPath, rfl, some text, rfl, congrArg (Option.map some) has.text?_of_path⟩

end CommandLine

namespace Program

open CommandLine (Command)

/-- A load run has the flags that are in effect. -/
theorem perform_eq_runTask
    {arguments : Arguments}
    {flags : RunFlags}
    (isLoadRun : arguments.runFlags? = some flags) :
    (perform arguments : StateM Surroundings Ending) = runTask arguments flags := by
  unfold Arguments.runFlags? at isLoadRun
  unfold perform
  cases task : arguments.task with
  | standard =>
      rw [task] at isLoadRun
      cases isLoadRun
      rfl
  | run own =>
      rw [task] at isLoadRun
      cases isLoadRun
      rfl
  | sample output force => simp [task] at isLoadRun
  | validate path => simp [task] at isLoadRun

/-- The flags of a load run that are in effect give their settings the values they
stand with: all flags if there is no command, and those behind the command `run` if
there is one. -/
theorem resolveSettings_of_flag
    {words : List String}
    {arguments : Arguments}
    {flags : RunFlags}
    {flag : Flag}
    {text : String}
    {before : Surroundings}
    {config : Config}
    (isRead : Arguments.read words = .ok arguments)
    (isLoadRun : arguments.runFlags? = some flags)
    (resolves : ((resolveSettings arguments flags :
      StateM Surroundings (Except SettingsFault Config)) before).1 = .ok config)
    (isRunFlag : flag ∈ RunFlags.grammar)
    (occurs : flag.OccursIn text (wordsInEffect words)) :
    (perform arguments : StateM Surroundings Ending) = runTask arguments flags ∧
      ∃ setting : Setting, setting.flagName? = some flag.name ∧
        setting.ofText? text = some (setting.get config) := by
  refine ⟨perform_eq_runTask isLoadRun, ?_⟩
  obtain ⟨command, final, settled, isPlain, knows, reads, settles, rfl⟩ :=
    Arguments.exists_level_of_read isRead isLoadRun
  obtain ⟨kind, takes⟩ := Flag.takesValue_iff.mp (RunFlags.takesValue_of_mem flag isRunFlag)
  have has := Command.has_of_occursIn isPlain takes (knows flag isRunFlag) occurs reads settles
  obtain ⟨setting, isFlag, value, isValue, given⟩ :=
    RunFlags.given?_ofValues isRunFlag takes has arguments.logLevel
  refine ⟨setting, isFlag, ?_⟩
  rw [Surroundings.resolveSettings_apply] at resolves
  obtain ⟨-, -, -, -, rfl, -⟩ := resolve_eq_ok_iff.mp resolves
  rw [inEffect, Setting.get_gather, given, Option.getD_some, isValue]

/-- A flag under its other name behind the command `run`, after a flag that has the
same word as its value. -/
theorem resolveSettings_of_users_flag :
    let words := ["--output", "run", "run", "--users", "9"]
    let arguments : Arguments :=
      { outer := { output := some "run" }, task := .run { tenants := some 9 } }
    let config :=
      { Config.standard with workload := { Config.standard.workload with tenants := 9 } }
    Arguments.read words = .ok arguments ∧ wordsInEffect words = ["--users", "9"] ∧
      ((resolveSettings arguments { tenants := some 9 } :
        StateM Surroundings (Except SettingsFault Config)) {}).1 = .ok config ∧
      (perform arguments : StateM Surroundings Ending) =
        runTask arguments { tenants := some 9 } ∧
      ∃ setting : Setting, setting.flagName? = some "tenants" ∧
        setting.ofText? "9" = some (setting.get config) := by
  intro words arguments config
  have isRead : Arguments.read words = .ok arguments := by decide +kernel
  have inEffect : wordsInEffect words = ["--users", "9"] := by decide +kernel
  have resolves : ((resolveSettings arguments { tenants := some 9 } :
      StateM Surroundings (Except SettingsFault Config)) {}).1 = .ok config := by
    decide +kernel
  let flag : Flag := { name := "tenants", kind := .value (.count 64), aliases := ["users"] }
  have occurs : flag.OccursIn "9" (wordsInEffect words) := by
    rw [inEffect]
    exact ⟨"users", by decide, [], [], .inr rfl⟩
  exact ⟨isRead, inEffect, resolves,
    resolveSettings_of_flag isRead rfl resolves (by decide) occurs⟩

/-- A flag before the command `run` is left aside: the settings keep the number of
tenants that they have by default. -/
theorem flag_before_run_has_no_effect :
    ∃ (arguments : Arguments) (flags : RunFlags) (flag : Flag) (config : Config),
      Arguments.read ["--tenants", "9", "run"] = .ok arguments ∧
      arguments.runFlags? = some flags ∧ flag ∈ RunFlags.grammar ∧
      flag.OccursIn "9" ["--tenants", "9", "run"] ∧
      ((resolveSettings arguments flags :
        StateM Surroundings (Except SettingsFault Config)) {}).1 = .ok config ∧
      ¬∃ setting : Setting, setting.flagName? = some flag.name ∧
        setting.ofText? "9" = some (setting.get config) := by
  refine ⟨{ outer := { tenants := some 9 }, task := .run {} }, {},
    { name := "tenants", kind := .value (.count 64), aliases := ["users"] }, Config.standard,
    by decide +kernel, rfl, by decide, ?_, by decide +kernel, ?_⟩
  · exact ⟨"tenants", by decide, [], ["run"], .inr rfl⟩
  · rintro ⟨setting, isFlag, value⟩
    cases setting <;> simp [Setting.flagName?] at isFlag
    revert value
    decide

end Program

end TenantLoad
