import Mathlib.Data.Option.Basic
import TenantLoad.Proofs.Config.Setting
import TenantLoad.Proofs.Except

/-!
# Settings of the environment

The environment overrides a setting by the variable of that setting and by
nothing else.  It fails exactly if the variable of some setting has a value that
the setting cannot have.
-/

namespace TenantLoad
namespace Config

namespace Setting

/-- The name of the variable that a setting has. -/
def variableName? : Setting → Option String
  | .baseUrl => some "BASE_URL"
  | .tenants => some "TENANTS"
  | .tablesPerTenant => some "TABLES_PER_TENANT"
  | .rowsPerTable => some "ROWS_PER_TABLE"
  | .rowConcurrency => some "ROW_CONCURRENCY"
  | .searchRequests => some "SEARCH_REQUESTS"
  | .searchConcurrency => some "SEARCH_CONCURRENCY"
  | .seed => some "SEED"
  | .maxAttempts => some "RETRY_MAX_ATTEMPTS"
  | .jitterMin => some "RETRY_JITTER_MIN_MS"
  | .jitterMax => some "RETRY_JITTER_MAX_MS"
  | .bodyPattern => some "RETRY_BODY_PATTERN"
  | .timeout => some "HTTP_TIMEOUT"
  | .userAgent => some "HTTP_USER_AGENT"
  | .level => some "LOG_LEVEL"
  | .format => some "LOG_FORMAT"
  | .outputPath => some "OUTPUT"
  | .statuses | .connectTimeout | .maxIdlePerHost | .includeLocation | .pretty => none

/-- The value of a setting that the text of a variable or a flag is; settings that
have neither are no texts. -/
def ofText? : (setting : Setting) → String → Option setting.Value
  | .baseUrl | .bodyPattern | .userAgent => some
  | .tenants | .tablesPerTenant | .rowsPerTable | .rowConcurrency | .searchRequests
  | .searchConcurrency | .jitterMin | .jitterMax => fun text => (Text.word64 text).toOption
  | .seed => fun text => (Text.word64 text).toOption.map some
  | .maxAttempts => fun text => (Text.word32 text).toOption
  | .timeout =>
    fun text => (Text.word64 text).toOption.map fun seconds => Duration.ofSeconds seconds.toNat
  | .level => LogLevel.ofText?
  | .format => LogFormat.ofText?
  | .outputPath => fun text => some (some text)
  | .statuses | .connectTimeout | .maxIdlePerHost | .includeLocation | .pretty => fun _ => none

/-- The value that the environment gives to a setting, if it gives one. -/
def inEnvironment? (setting : Setting) (environment : Environment) : Option setting.Value :=
  (setting.variableName?.bind environment).bind setting.ofText?

/-- The variable of a setting is set to a text that is no value of the setting. -/
def IsFaulty (setting : Setting) (environment : Environment) : Prop :=
  ∃ text, setting.variableName?.bind environment = some text ∧ setting.ofText? text = none

end Setting

namespace Environment

variable {Value : Type} {environment : Environment} {name : String}

private theorem getD_bind_some
    {own other : Option Value} :
    (own.bind fun value => some (some value)).getD other = own.or other := by
  cases own <;> rfl

private theorem getD_bind_map_some
    {read : String → Option Value}
    {own : Option String}
    {other : Option Value} :
    (own.bind fun text => (read text).map some).getD other = (own.bind read).or other := by
  cases own with
  | none => rfl
  | some text => cases isRead : read text <;> simp [isRead]

theorem read_eq_ok_iff
    {reader : String → Except Text.NumberFault Value}
    {value : Option Value} :
    environment.read name reader = .ok value ↔
      (¬∃ text, environment name = some text ∧ (reader text).toOption = none) ∧
        value = (environment name).bind fun text => (reader text).toOption := by
  unfold read
  cases environment name with
  | none => simp [eq_comm]
  | some text => cases isRead : reader text <;> simp [isRead, Except.toOption, eq_comm]

theorem choose_eq_ok_iff
    {choice : String → Option Value}
    {value : Option Value} :
    environment.choose name choice = .ok value ↔
      (¬∃ text, environment name = some text ∧ choice text = none) ∧
        value = (environment name).bind choice := by
  unfold choose
  cases environment name with
  | none => simp [eq_comm]
  | some text => cases isChosen : choice text <;> simp [isChosen, eq_comm]

/-- The environment overrides settings that it gives a value to, each by its own
variable, unless the variable of some setting is faulty. -/
theorem override_eq_ok_iff
    {config result : Config} :
    environment.override config = .ok result ↔
      (¬∃ setting : Setting, setting.IsFaulty environment) ∧
        ∀ setting : Setting, setting.get result =
          (setting.inEnvironment? environment).getD (setting.get config) := by
  rw [← Setting.gather_eq_iff, not_exists, Setting.forall_iff]
  -- a setting without a variable, or one that is any text, is never faulty
  simp only [override, target, workload, retry, connection, logging, output,
    Except.bind_eq_ok_iff, read_eq_ok_iff, choose_eq_ok_iff, Except.pure_eq_ok_iff, and_assoc,
    exists_and_left, exists_eq_left, exists_eq_left', Setting.IsFaulty, Setting.gather,
    Setting.inEnvironment?, Setting.variableName?, Setting.ofText?, Setting.get, Option.bind_some,
    Option.bind_none, Option.bind_fun_some, Option.getD_none, getD_bind_some, getD_bind_map_some,
    Option.map_bind, Function.comp_def, Option.map_eq_none_iff, reduceCtorEq, and_false,
    exists_false, false_and, not_false_eq_true, true_and]

end Environment

end Config
end TenantLoad
