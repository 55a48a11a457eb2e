import TenantLoad.Config.Error
import TenantLoad.Config.Settings
import TenantLoad.Text.Number

/-!
# Settings from the environment

A variable that is set overrides the setting of its name.  Numbers, levels
and formats must be readable; any text will do for the others.
-/

namespace TenantLoad
namespace Config

/-- The variables that are set. -/
abbrev Environment := String → Option String

/-- The level of a text in any case; `warning` is another name of a level. -/
def LogLevel.ofText? (text : String) : Option LogLevel :=
  (LogLevel.names ++ [("warning", LogLevel.warn)]).lookup text.toLower

/-- The format of a text in any case. -/
def LogFormat.ofText? (text : String) : Option LogFormat := LogFormat.names.lookup text.toLower

/-- What is said of a text that is no level. -/
def LogLevel.fault (text : String) : String := s!"Invalid log level: {text}"

/-- What is said of a text that is no format. -/
def LogFormat.fault (text : String) : String := s!"Invalid log format: {text}"

namespace Environment

/-- The variables with these values; one whose value is no text counts as not
set. -/
def ofBytes (bytes : String → Option ByteArray) : Environment :=
  fun name => (bytes name).bind String.fromUTF8?

/-- The prefix of the variables unless another is chosen. -/
def standardPrefix : String := "STAMPEDE"

/-- The names of the variables that settings come from, without their prefix. -/
def names : List String :=
  ["BASE_URL", "TENANTS", "TABLES_PER_TENANT", "ROWS_PER_TABLE", "ROW_CONCURRENCY",
    "SEARCH_REQUESTS", "SEARCH_CONCURRENCY", "SEED", "RETRY_MAX_ATTEMPTS", "RETRY_JITTER_MIN_MS",
    "RETRY_JITTER_MAX_MS", "RETRY_BODY_PATTERN", "HTTP_TIMEOUT", "HTTP_USER_AGENT", "LOG_LEVEL",
    "LOG_FORMAT", "OUTPUT"]

/-- The name of a variable with a prefix. -/
def fullName (start name : String) : String := s!"{start}_{name}"

/-- The variables with a prefix, by the rest of their names. -/
def withPrefix (environment : Environment) (start : String) : Environment :=
  fun name => environment (fullName start name)

/-- The value of a variable by a reader, if it is set. -/
def read (environment : Environment) (name : String)
    (reader : String → Except Text.NumberFault Value) : Except Error (Option Value) :=
  match environment name with
  | none => .ok none
  | some text =>
    match reader text with
    | .ok value => .ok (some value)
    | .error fault => .error (.variable s!"Invalid {name}: {fault.message}")

/-- The chosen value of a variable, if it is set. -/
def choose (environment : Environment) (name : String) (choice : String → Option Value) :
    Except Error (Option Value) :=
  match environment name with
  | none => .ok none
  | some text =>
    match choice text with
    | some value => .ok (some value)
    | none => .error (.variable s!"Invalid {name}: {text}")

/-- The target after the environment. -/
def target (environment : Environment) (target : Target) : Target :=
  { baseUrl := (environment "BASE_URL").getD target.baseUrl }

/-- The workload after the environment. -/
def workload (environment : Environment) (workload : Workload) : Except Error Workload := do
  let tenants ← environment.read "TENANTS" Text.word64
  let tables ← environment.read "TABLES_PER_TENANT" Text.word64
  let rows ← environment.read "ROWS_PER_TABLE" Text.word64
  let rowConcurrency ← environment.read "ROW_CONCURRENCY" Text.word64
  let searches ← environment.read "SEARCH_REQUESTS" Text.word64
  let searchConcurrency ← environment.read "SEARCH_CONCURRENCY" Text.word64
  let seed ← environment.read "SEED" Text.word64
  pure
    { tenants := tenants.getD workload.tenants
      tablesPerTenant := tables.getD workload.tablesPerTenant
      rowsPerTable := rows.getD workload.rowsPerTable
      rowConcurrency := rowConcurrency.getD workload.rowConcurrency
      searchRequests := searches.getD workload.searchRequests
      searchConcurrency := searchConcurrency.getD workload.searchConcurrency
      seed := seed.or workload.seed }

/-- The rules of retrying after the environment. -/
def retry (environment : Environment) (rules : RetryRules) : Except Error RetryRules := do
  let maxAttempts ← environment.read "RETRY_MAX_ATTEMPTS" Text.word32
  let jitterMin ← environment.read "RETRY_JITTER_MIN_MS" Text.word64
  let jitterMax ← environment.read "RETRY_JITTER_MAX_MS" Text.word64
  pure
    { rules with
      maxAttempts := maxAttempts.getD rules.maxAttempts
      jitterMinMs := jitterMin.getD rules.jitterMinMs
      jitterMaxMs := jitterMax.getD rules.jitterMaxMs
      bodyPattern := (environment "RETRY_BODY_PATTERN").getD rules.bodyPattern }

/-- The connection after the environment. -/
def connection (environment : Environment) (connection : Connection) :
    Except Error Connection := do
  let timeout ← environment.read "HTTP_TIMEOUT" Text.word64
  pure
    { connection with
      timeout := (timeout.map fun seconds => Duration.ofSeconds seconds.toNat).getD
        connection.timeout
      userAgent := (environment "HTTP_USER_AGENT").getD connection.userAgent }

/-- The logging after the environment. -/
def logging (environment : Environment) (logging : Logging) : Except Error Logging := do
  let level ← environment.choose "LOG_LEVEL" LogLevel.ofText?
  let format ← environment.choose "LOG_FORMAT" LogFormat.ofText?
  pure
    { logging with
      level := level.getD logging.level
      format := format.getD logging.format }

/-- The output after the environment. -/
def output (environment : Environment) (output : Output) : Output :=
  { output with path := (environment "OUTPUT").or output.path }

/-- The settings after the environment. -/
def override (environment : Environment) (config : Config) : Except Error Config := do
  let workload ← environment.workload config.workload
  let retry ← environment.retry config.retry
  let connection ← environment.connection config.connection
  let logging ← environment.logging config.logging
  pure
    { target := environment.target config.target
      workload, retry, connection, logging
      output := environment.output config.output }

end Environment
end Config
end TenantLoad
