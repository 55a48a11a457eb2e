import TenantLoad.Program.Tasks
import TenantLoad.Proofs.Config.Layers

/-!
# Precedence of settings

The settings in effect have their values from the flags, from the environment,
from the file and from the defaults, in this order and each setting by itself.
There are none exactly if one of these cannot be used or what they give is out of
bounds, with or without the flags.
-/

namespace TenantLoad

open CommandLine (Arguments RunFlags)
open Config (Environment FileContent IsUnusable LogLevel Setting)

namespace Config.Setting

/-- The value that the flags give to a setting, if they give one. -/
def given? : (setting : Setting) → (asked : Option String) → RunFlags → Option setting.Value
  | .baseUrl, _, flags => flags.baseUrl
  | .tenants, _, flags => flags.tenants
  | .tablesPerTenant, _, flags => flags.tablesPerTenant
  | .rowsPerTable, _, flags => flags.rowsPerTable
  | .rowConcurrency, _, flags => flags.rowConcurrency
  | .searchRequests, _, flags => flags.searchRequests
  | .searchConcurrency, _, flags => flags.searchConcurrency
  | .seed, _, flags => flags.seed.map some
  | .level, asked, _ => asked.bind LogLevel.ofText?
  | .outputPath, _, flags => flags.output.map some
  | .maxAttempts, _, _ | .jitterMin, _, _ | .jitterMax, _, _ | .statuses, _, _
  | .bodyPattern, _, _ | .timeout, _, _ | .connectTimeout, _, _ | .userAgent, _, _
  | .maxIdlePerHost, _, _ | .format, _, _ | .includeLocation, _, _ | .pretty, _, _ => none

end Config.Setting

namespace CommandLine.RunFlags

/-- Settings with flags have the values of the flags, and their own where there is
no flag. -/
theorem get_apply
    (flags : RunFlags)
    (config : Config)
    (setting : Setting) :
    setting.get (flags.apply config) = (setting.given? none flags).getD (setting.get config) := by
  cases setting
  case seed => cases seed : flags.seed <;> simp [apply, Setting.get, Setting.given?, seed]
  case outputPath =>
    cases output : flags.output <;> simp [apply, Setting.get, Setting.given?, output]
  all_goals rfl

end CommandLine.RunFlags

namespace Program

/-- The settings of all layers, whether they can be used or not. -/
def inEffect (file : Option FileContent) (environment : Environment) (level : Option String)
    (flags : RunFlags) : Config :=
  Setting.gather fun setting =>
    (setting.given? level flags).getD (setting.loaded file environment)

variable {isDirectory : String → Bool} {file : Option FileContent} {environment : Environment}
  {level : Option String} {flags : RunFlags} {config result : Config}

/-- The flag for the level changes nothing else. -/
theorem applyLevel_apply_eq_ok_iff :
    applyLevel level (flags.apply config) = .ok result ↔
      (¬∃ text, level = some text ∧ LogLevel.ofText? text = none) ∧
        ∀ setting : Setting, setting.get result =
          (setting.given? level flags).getD (setting.get config) := by
  rw [← Setting.gather_eq_iff]
  cases level with
  | none =>
      rw [Setting.gather_eq_iff.mpr (RunFlags.get_apply flags config)]
      simp [applyLevel]
  | some text =>
      cases isRead : LogLevel.ofText? text with
      | none => simp [applyLevel, isRead]
      | some level =>
          have values : (Setting.gather fun setting =>
              (setting.given? (some text) flags).getD (setting.get config)) =
                { flags.apply config with
                  logging := { (flags.apply config).logging with level } } := by
            rw [Setting.gather_eq_iff]
            intro setting
            have flagged := RunFlags.get_apply flags config setting
            cases setting
            case level => simp [Setting.get, Setting.given?, isRead]
            all_goals exact flagged
          simp [applyLevel, isRead, values]

theorem resolve_eq_ok_iff :
    resolve isDirectory file environment level flags = .ok config ↔
      (¬∃ content, file = some content ∧ IsUnusable content) ∧
        (¬∃ setting : Setting, setting.IsFaulty environment) ∧
        (Config.layered file environment).validate isDirectory = .ok () ∧
        (¬∃ text, level = some text ∧ LogLevel.ofText? text = none) ∧
        inEffect file environment level flags = config ∧ config.validate isDirectory = .ok () := by
  simp only [resolve, Except.bind_eq_ok_iff, Except.mapError_eq_ok_iff, Config.load_eq_ok_iff,
    applyLevel_apply_eq_ok_iff, Except.pure_eq_ok_iff, ← Setting.gather_eq_iff]
  constructor
  · rintro ⟨_, ⟨isUsable, faultless, rfl, isValid⟩, _, ⟨isLevel, rfl⟩, ⟨⟩, staysValid, rfl⟩
    refine ⟨isUsable, faultless, isValid, isLevel, ?_, staysValid⟩
    simp [inEffect, Config.layered]
  · rintro ⟨isUsable, faultless, isValid, isLevel, rfl, staysValid⟩
    refine ⟨_, ⟨isUsable, faultless, rfl, isValid⟩, _, ⟨isLevel, ?_⟩, (), staysValid, rfl⟩
    simp [inEffect, Config.layered]

/-- The paths that are checked are enough to load settings. -/
theorem load_congr
    {isDirectoryToo : String → Bool}
    (same : ∀ path ∈ checkedPaths file environment flags, isDirectory path = isDirectoryToo path) :
    Config.load isDirectory file environment = Config.load isDirectoryToo file environment := by
  apply Config.load_congr
  intro path loaded assembled isPath
  exact same path (by simp [checkedPaths, assembled, isPath])

/-- The paths that are checked are enough to resolve settings. -/
theorem resolve_congr
    {isDirectoryToo : String → Bool}
    (same : ∀ path ∈ checkedPaths file environment flags, isDirectory path = isDirectoryToo path) :
    resolve isDirectory file environment level flags =
      resolve isDirectoryToo file environment level flags := by
  unfold resolve
  rw [load_congr same]
  cases loading : Config.load isDirectoryToo file environment with
  | error error => rfl
  | ok loaded =>
      cases flagged : applyLevel level (flags.apply loaded) with
      | error fault => simp only [Except.mapError, bind, Except.bind, flagged]
      | ok final =>
          have assembled := Config.assemble_of_load loading
          have output : final.output.path =
              (flags.output.map some).getD loaded.output.path :=
            (applyLevel_apply_eq_ok_iff.mp flagged).2 .outputPath
          have valid : final.validate isDirectory = final.validate isDirectoryToo := by
            apply Config.validate_congr
            intro path isPath
            apply same path
            rw [output] at isPath
            cases given : flags.output with
            | none =>
                have isLoadedPath : loaded.output.path = some path := by simpa [given] using isPath
                simp [checkedPaths, assembled, isLoadedPath]
            | some own =>
                have isOwn : own = path := by simpa [given] using isPath
                simp [checkedPaths, given, isOwn]
          simp only [Except.mapError, bind, Except.bind, flagged, valid]

namespace Surroundings

/-- Steps one after another hand on what is in the surroundings. -/
theorem apply_bind
    {Value Result : Type}
    (step : StateM Surroundings Value)
    (next : Value → StateM Surroundings Result)
    (before : Surroundings) :
    (step >>= next) before = next (step before).1 (step before).2 :=
  rfl

theorem apply_pure
    {Value : Type}
    (value : Value)
    (before : Surroundings) :
    (pure value : StateM Surroundings Value) before = (value, before) :=
  rfl

/-- The content of the file of settings, if there is something at its path. -/
def settingsFile? (surroundings : Surroundings) (path : Option String) : Option FileContent :=
  path.bind fun path =>
    if surroundings.areDirectories path || (surroundings.file? path).isSome then
      some (surroundings.read path)
    else none

theorem settingsFile_apply
    (path : Option String)
    (before : Surroundings) :
    (settingsFile path : StateM Surroundings (Option FileContent)) before =
      (before.settingsFile? path, before) := by
  cases path with
  | none => rfl
  | some path =>
      have isPresent : (Host.isPresent path : StateM Surroundings Bool) before =
          (before.areDirectories path || (before.file? path).isSome, before) := rfl
      simp only [settingsFile, settingsFile?, Option.bind_some, apply_bind, isPresent]
      split <;> rfl

theorem filterAuxM_isDirectory_apply
    (paths kept : List String)
    (before : Surroundings) :
    (paths.filterAuxM Host.isDirectory kept : StateM Surroundings (List String)) before =
      ((paths.filter before.areDirectories).reverse ++ kept, before) := by
  induction paths generalizing kept with
  | nil => rfl
  | cons path paths inductionHypothesis =>
      have isDirectory : (Host.isDirectory path : StateM Surroundings Bool) before =
          (before.areDirectories path, before) := rfl
      simp only [List.filterAuxM, apply_bind, isDirectory]
      refine (inductionHypothesis _).trans ?_
      cases kind : before.areDirectories path <;> simp [kind]

theorem filterM_isDirectory_apply
    (paths : List String)
    (before : Surroundings) :
    (paths.filterM Host.isDirectory : StateM Surroundings (List String)) before =
      (paths.filter before.areDirectories, before) := by
  simp only [List.filterM, apply_bind, filterAuxM_isDirectory_apply, List.append_nil,
    List.reverse_reverse]
  rfl

/-- Which of some paths are directories tells of each of them whether it is one. -/
theorem same_of_filter
    (surroundings : Surroundings)
    (paths : List String) :
    ∀ path ∈ paths,
      (paths.filter surroundings.areDirectories).contains path =
        surroundings.areDirectories path := by
  intro path member
  simp [member]

/-- The settings in effect are resolved from what is in the surroundings. -/
theorem resolveSettings_apply
    (arguments : Arguments)
    (flags : RunFlags)
    (before : Surroundings) :
    (resolveSettings arguments flags : StateM Surroundings (Except SettingsFault Config)) before =
      (resolve before.areDirectories (before.settingsFile? arguments.configPath)
        (before.environment.withPrefix Environment.standardPrefix) arguments.logLevel flags,
        before) := by
  have environment : (settingsEnvironment : StateM Surroundings Environment) before =
      (before.environment.withPrefix Environment.standardPrefix, before) := rfl
  simp only [resolveSettings, apply_bind, environment, settingsFile_apply,
    filterM_isDirectory_apply]
  exact congrArg (·, before) (resolve_congr (same_of_filter before _))

/-- A file is fine if there is one and settings can be loaded from it. -/
theorem validateTask_apply_eq_ok_iff
    (path : String)
    (before : Surroundings) :
    ((validateTask path : StateM Surroundings Ending) before).1 = .ok () ↔
      ∃ content config, before.settingsFile? (some path) = some content ∧
        Config.load before.areDirectories (some content)
          (before.environment.withPrefix Environment.standardPrefix) = .ok config := by
  have environment : (settingsEnvironment : StateM Surroundings Environment) before =
      (before.environment.withPrefix Environment.standardPrefix, before) := rfl
  simp only [validateTask, apply_bind, settingsFile_apply]
  cases before.settingsFile? (some path) with
  | none => simp [apply_pure]
  | some content =>
      have loads := load_congr (same_of_filter before (checkedPaths (some content)
        (before.environment.withPrefix Environment.standardPrefix) {}))
      simp only [apply_bind, environment, filterM_isDirectory_apply, loads]
      cases loading : Config.load before.areDirectories (some content)
        (before.environment.withPrefix Environment.standardPrefix) with
      | error error => simp [apply_bind, apply_pure, loading]
      | ok config => simp [apply_bind, apply_pure, loading]

end Surroundings

/-- Without flags the settings are those that are loaded. -/
theorem resolve_of_no_flags :
    resolve isDirectory file environment none {} =
      (Config.load isDirectory file environment).mapError .load := by
  unfold resolve
  cases loading : Config.load isDirectory file environment with
  | error error => rfl
  | ok config =>
      obtain ⟨-, -, -, isValid⟩ := Config.load_eq_ok_iff.mp loading
      have unchanged : applyLevel none (RunFlags.apply {} config) = .ok config := rfl
      simp only [Except.mapError, bind, Except.bind, unchanged, isValid]
      rfl

/-- The settings in effect are within bounds, and each of them has its value from
its flag, else from its variable, else from the file, else by default.  There are
none exactly if the file cannot be used, a variable is faulty, the level is none,
or what they give is out of bounds without the flags or with them.  Without flags
they are those that are loaded, so a file is fine exactly if a load run gets
settings from it. -/
theorem resolveSettings_precedence
    (bytes : String → Option ByteArray)
    (surroundings : Surroundings)
    (arguments : Arguments)
    (flags : RunFlags) :
    let before : Surroundings := { surroundings with environment := .ofBytes bytes }
    let environment := (Environment.ofBytes bytes).withPrefix Environment.standardPrefix
    let file := before.settingsFile? arguments.configPath
    let level := arguments.logLevel
    let resolved := ((resolveSettings arguments flags :
      StateM Surroundings (Except SettingsFault Config)) before).1
    (∀ config, resolved = .ok config →
      config.validate before.areDirectories = .ok () ∧
        ∀ setting : Setting, setting.get config =
          ((setting.given? level flags).or
            ((setting.inEnvironment? environment).or (setting.inFile? file))).getD
              setting.default) ∧
    ((∃ fault, resolved = .error fault) ↔
      (∃ content, file = some content ∧ IsUnusable content) ∨
        (∃ setting : Setting, setting.IsFaulty environment) ∨
        (Config.layered file environment).validate before.areDirectories ≠ .ok () ∨
        (∃ text, level = some text ∧ LogLevel.ofText? text = none) ∨
        (inEffect file environment level flags).validate before.areDirectories ≠ .ok ()) ∧
    (level = none → flags = {} →
      resolved = (Config.load before.areDirectories file environment).mapError .load) ∧
    ∀ path content, arguments.configPath = some path → file = some content → level = none →
      flags = {} →
        (((validateTask path : StateM Surroundings Ending) before).1 = .ok () ↔
          ∃ config, resolved = .ok config) := by
  intro before environment file level resolved
  have isResolved : resolved =
      resolve before.areDirectories file environment level flags :=
    congrArg Prod.fst (Surroundings.resolveSettings_apply arguments flags before)
  rw [isResolved]
  refine ⟨?_, ?_, ?_, ?_⟩
  · intro config resolves
    obtain ⟨-, -, -, -, rfl, isValid⟩ := resolve_eq_ok_iff.mp resolves
    refine ⟨isValid, fun setting => ?_⟩
    simp [inEffect, Setting.loaded, Option.getD_or]
  · rw [Except.exists_error_iff]
    simp only [ne_eq]
    rw [← not_exists]
    simp only [resolve_eq_ok_iff, exists_and_left, exists_eq_left', not_and_or, not_not]
  · rintro isLevel rfl
    rw [isLevel, resolve_of_no_flags]
  · rintro path content isPath isFile isLevel rfl
    rw [isLevel, resolve_of_no_flags, Surroundings.validateTask_apply_eq_ok_iff, ← isPath]
    simp only [Except.mapError_eq_ok_iff]
    constructor
    · rintro ⟨own, config, isOwn, loads⟩
      have isFileToo : file = some own := isOwn
      exact ⟨config, isFileToo ▸ loads⟩
    · rintro ⟨config, loads⟩
      exact ⟨content, config, isFile, isFile ▸ loads⟩

/-- The file, a variable and a flag all give the number of tenants; each of them
also gives a value that no later one overrides. -/
theorem resolveSettings_precedence_of_all_layers :
    let text := "workload:\n  tenants: 5\n  rows_per_table: 9\n  search_requests: 8\n"
    let texts (name : String) :=
      [("STAMPEDE_TENANTS", "6"), ("STAMPEDE_SEARCH_REQUESTS", "7")].lookup name
    let before : Surroundings :=
      { files := [("load.yaml", text.toUTF8)]
        environment := .ofBytes fun name => (texts name).map String.toUTF8 }
    let arguments : Arguments := { configPath := some "load.yaml", logLevel := some "debug" }
    let config : Config :=
      { workload := { tenants := 4, searchRequests := 7, rowsPerTable := 9 }
        logging := { level := .debug } }
    ((resolveSettings arguments { tenants := some 4 } :
        StateM Surroundings (Except SettingsFault Config)) before).1 = .ok config ∧
      config.validate before.areDirectories = .ok () := by
  intro text texts before arguments config
  have resolves : ((resolveSettings arguments { tenants := some 4 } :
      StateM Surroundings (Except SettingsFault Config)) before).1 = .ok config := by
    decide +kernel
  obtain ⟨follows, -⟩ := resolveSettings_precedence (fun name => (texts name).map String.toUTF8)
    before arguments { tenants := some 4 }
  exact ⟨resolves, (follows config resolves).1⟩

end Program
end TenantLoad
