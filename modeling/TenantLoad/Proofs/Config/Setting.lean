import TenantLoad.Config.Load

/-!
# Settings one by one

A setting is a field of one of the sections.  It has a place in a file and may
have a variable of the environment, and settings are told apart by the values of
all of them.  Main statements: a file that is read gives every setting the value
at its place, or its default where there is none, and the environment overrides
every setting by its own variable and nothing else.
-/

namespace TenantLoad

namespace Source

variable {Data : Type} {Value : Type}

/-- The data of one field of the record that the data is, if it is there. -/
def field? [Source Data] (names : List String) (name : String) (data : Data) : Option Data :=
  ((Source.fields? names data).bind fun fields => (names.zip fields).lookup name).join

/-- A field has the value that is read from it, or its default if it is absent. -/
theorem eq_of_defaulted?
    {default value : Value}
    {read : Data → Option Value}
    {field : Option Data}
    (isRead : defaulted? default read field = some value) :
    value = (field.bind read).getD default := by
  cases field with
  | none => exact (Option.some.inj isRead).symm
  | some data =>
      have isReadHere : read data = some value := isRead
      simp [isReadHere]

end Source

namespace Config

/-- The settings of a load run. -/
inductive Setting where
  | baseUrl
  | tenants
  | tablesPerTenant
  | rowsPerTable
  | rowConcurrency
  | searchRequests
  | searchConcurrency
  | seed
  | maxAttempts
  | jitterMin
  | jitterMax
  | statuses
  | bodyPattern
  | timeout
  | connectTimeout
  | userAgent
  | maxIdlePerHost
  | level
  | format
  | includeLocation
  | outputPath
  | pretty
  deriving Repr, DecidableEq

namespace Setting

/-- What the values of a setting are. -/
abbrev Value : Setting → Type
  | .baseUrl | .bodyPattern | .userAgent => String
  | .tenants | .tablesPerTenant | .rowsPerTable | .rowConcurrency | .searchRequests
  | .searchConcurrency | .jitterMin | .jitterMax | .maxIdlePerHost => UInt64
  | .seed => Option UInt64
  | .maxAttempts => UInt32
  | .statuses => List UInt16
  | .timeout | .connectTimeout => Duration
  | .level => LogLevel
  | .format => LogFormat
  | .includeLocation | .pretty => Bool
  | .outputPath => Option String

/-- What holds for every setting holds for each of them. -/
theorem forall_iff
    {Holds : Setting → Prop} :
    (∀ setting, Holds setting) ↔
      (Holds .baseUrl ∧ Holds .tenants ∧ Holds .tablesPerTenant ∧ Holds .rowsPerTable ∧
        Holds .rowConcurrency ∧ Holds .searchRequests ∧ Holds .searchConcurrency ∧ Holds .seed) ∧
      (Holds .maxAttempts ∧ Holds .jitterMin ∧ Holds .jitterMax ∧ Holds .statuses ∧
        Holds .bodyPattern) ∧
      (Holds .timeout ∧ Holds .connectTimeout ∧ Holds .userAgent ∧ Holds .maxIdlePerHost) ∧
      (Holds .level ∧ Holds .format ∧ Holds .includeLocation) ∧
      (Holds .outputPath ∧ Holds .pretty) := by
  constructor
  · intro holds
    simp only [holds, and_self]
  · rintro ⟨⟨_, _, _, _, _, _, _, _⟩, ⟨_, _, _, _, _⟩, ⟨_, _, _, _⟩, ⟨_, _, _⟩, ⟨_, _⟩⟩ setting
    cases setting <;> assumption

/-- The value of a setting. -/
def get : (setting : Setting) → Config → setting.Value
  | .baseUrl, config => config.target.baseUrl
  | .tenants, config => config.workload.tenants
  | .tablesPerTenant, config => config.workload.tablesPerTenant
  | .rowsPerTable, config => config.workload.rowsPerTable
  | .rowConcurrency, config => config.workload.rowConcurrency
  | .searchRequests, config => config.workload.searchRequests
  | .searchConcurrency, config => config.workload.searchConcurrency
  | .seed, config => config.workload.seed
  | .maxAttempts, config => config.retry.maxAttempts
  | .jitterMin, config => config.retry.jitterMinMs
  | .jitterMax, config => config.retry.jitterMaxMs
  | .statuses, config => config.retry.statuses
  | .bodyPattern, config => config.retry.bodyPattern
  | .timeout, config => config.connection.timeout
  | .connectTimeout, config => config.connection.connectTimeout
  | .userAgent, config => config.connection.userAgent
  | .maxIdlePerHost, config => config.connection.maxIdlePerHost
  | .level, config => config.logging.level
  | .format, config => config.logging.format
  | .includeLocation, config => config.logging.includeLocation
  | .outputPath, config => config.output.path
  | .pretty, config => config.output.pretty

/-- The value of a setting when nothing else gives one. -/
def default (setting : Setting) : setting.Value := setting.get standard

/-- The settings with values that are given one by one. -/
def gather (value : (setting : Setting) → setting.Value) : Config :=
  { target := { baseUrl := value .baseUrl }
    workload :=
      { tenants := value .tenants
        tablesPerTenant := value .tablesPerTenant
        rowsPerTable := value .rowsPerTable
        rowConcurrency := value .rowConcurrency
        searchRequests := value .searchRequests
        searchConcurrency := value .searchConcurrency
        seed := value .seed }
    retry :=
      { maxAttempts := value .maxAttempts
        jitterMinMs := value .jitterMin
        jitterMaxMs := value .jitterMax
        statuses := value .statuses
        bodyPattern := value .bodyPattern }
    connection :=
      { timeout := value .timeout
        connectTimeout := value .connectTimeout
        userAgent := value .userAgent
        maxIdlePerHost := value .maxIdlePerHost }
    logging :=
      { level := value .level, format := value .format, includeLocation := value .includeLocation }
    output := { path := value .outputPath, pretty := value .pretty } }

@[simp]
theorem get_gather
    {value : (setting : Setting) → setting.Value}
    (setting : Setting) :
    setting.get (gather value) = value setting := by
  cases setting <;> rfl

@[simp]
theorem gather_get
    (config : Config) :
    (gather fun setting => setting.get config) = config :=
  rfl

/-- Settings are told apart by their values. -/
theorem gather_eq_iff
    {value : (setting : Setting) → setting.Value}
    {config : Config} :
    gather value = config ↔ ∀ setting : Setting, setting.get config = value setting := by
  constructor
  · rintro rfl setting
    exact get_gather setting
  · intro agree
    have values : value = fun setting => setting.get config :=
      funext fun setting => (agree setting).symm
    rw [values, gather_get]

/-! ## In a file -/

/-- The name of the section that a setting belongs to, with the names of its
fields. -/
def home : Setting → String × List String
  | .baseUrl => ("target", Target.fieldNames)
  | .tenants | .tablesPerTenant | .rowsPerTable | .rowConcurrency | .searchRequests
  | .searchConcurrency | .seed => ("workload", Workload.fieldNames)
  | .maxAttempts | .jitterMin | .jitterMax | .statuses | .bodyPattern =>
    ("retry", RetryRules.fieldNames)
  | .timeout | .connectTimeout | .userAgent | .maxIdlePerHost => ("http", Connection.fieldNames)
  | .level | .format | .includeLocation => ("logging", Logging.fieldNames)
  | .outputPath | .pretty => ("output", Output.fieldNames)

/-- The name of the field that a setting is. -/
def field : Setting → String
  | .baseUrl => "base_url"
  | .tenants => "tenants"
  | .tablesPerTenant => "tables_per_tenant"
  | .rowsPerTable => "rows_per_table"
  | .rowConcurrency => "row_concurrency"
  | .searchRequests => "search_requests"
  | .searchConcurrency => "search_concurrency"
  | .seed => "seed"
  | .maxAttempts => "max_attempts"
  | .jitterMin => "jitter_min_ms"
  | .jitterMax => "jitter_max_ms"
  | .statuses => "retryable_statuses"
  | .bodyPattern => "retryable_body_pattern"
  | .timeout => "timeout"
  | .connectTimeout => "connection_timeout"
  | .userAgent => "user_agent"
  | .maxIdlePerHost => "max_idle_per_host"
  | .level => "level"
  | .format => "format"
  | .includeLocation => "include_location"
  | .outputPath => "path"
  | .pretty => "pretty"

section Data

variable {Data : Type} [Source Data]

/-- The value of a setting that data is. -/
def ofData? : (setting : Setting) → Data → Option setting.Value
  | .baseUrl | .bodyPattern | .userAgent => Source.text?
  | .tenants | .tablesPerTenant | .rowsPerTable | .rowConcurrency | .searchRequests
  | .searchConcurrency | .jitterMin | .jitterMax | .maxIdlePerHost => readWord64?
  | .seed => Source.optional? readWord64?
  | .maxAttempts => readWord32?
  | .statuses => Source.list? readWord16?
  | .timeout | .connectTimeout => readSeconds?
  | .level => Source.choice? LogLevel.names
  | .format => Source.choice? LogFormat.names
  | .includeLocation | .pretty => Source.boolean?
  | .outputPath => Source.optional? Source.text?

/-- The value of a setting that stands in its section, if there is one. -/
def inSection? (setting : Setting) (part : Option Data) : Option setting.Value :=
  (part.bind (Source.field? setting.home.2 setting.field)).bind setting.ofData?

/-- The value of a setting that stands at its place in the data of a file. -/
def inData? (setting : Setting) (data : Data) : Option setting.Value :=
  setting.inSection? (Source.field? sectionNames setting.home.1 data)

end Data

end Setting

/-! ## Sections that are read -/

section Data

variable {Data : Type} [Source Data] {data : Data} {part : Option Data}

/-- The value of a setting in its section, or its default. -/
def Setting.read (setting : Setting) (part : Option Data) : setting.Value :=
  (setting.inSection? part).getD setting.default

/-- A field of a section that is read has the value of its setting. -/
theorem Setting.read_of_defaulted?
    (setting : Setting)
    {fields : List (Option Data)}
    {value : setting.Value}
    (known : Source.fields? setting.home.2 data = some fields)
    (isRead : Source.defaulted? setting.default setting.ofData?
      ((setting.home.2.zip fields).lookup setting.field).join = some value) :
    value = setting.read (some data) := by
  rw [Source.eq_of_defaulted? isRead]
  simp only [Setting.read, Setting.inSection?, Source.field?, Option.bind_some, known]

theorem Target.eq_of_defaulted?
    {target : Target}
    (isRead : Source.defaulted? {} (Target.read? {}) part = some target) :
    target = { baseUrl := Setting.read .baseUrl part } := by
  cases part with
  | none => cases isRead; rfl
  | some data =>
      simp only [Source.defaulted?, read?, Option.bind_eq_bind, Option.bind_eq_some_iff] at isRead
      obtain ⟨fields, known, isRead⟩ := isRead
      split at isRead
      · simp only [Option.bind_eq_some_iff, Option.pure_def, Option.some.injEq] at isRead
        obtain ⟨_, url, rfl⟩ := isRead
        rw [Setting.read_of_defaulted? .baseUrl known url]
      · cases isRead

theorem Workload.eq_of_defaulted?
    {workload : Workload}
    (isRead : Source.defaulted? {} (Workload.read? {}) part = some workload) :
    workload =
      { tenants := Setting.read .tenants part
        tablesPerTenant := Setting.read .tablesPerTenant part
        rowsPerTable := Setting.read .rowsPerTable part
        rowConcurrency := Setting.read .rowConcurrency part
        searchRequests := Setting.read .searchRequests part
        searchConcurrency := Setting.read .searchConcurrency part
        seed := Setting.read .seed part } := by
  cases part with
  | none => cases isRead; rfl
  | some data =>
      simp only [Source.defaulted?, read?, Option.bind_eq_bind, Option.bind_eq_some_iff] at isRead
      obtain ⟨fields, known, isRead⟩ := isRead
      split at isRead
      · simp only [Option.bind_eq_some_iff, Option.pure_def, Option.some.injEq] at isRead
        obtain ⟨_, tenants, _, tables, _, rows, _, rowConcurrency, _, searches,
          _, searchConcurrency, _, seed, rfl⟩ := isRead
        rw [Setting.read_of_defaulted? .tenants known tenants,
          Setting.read_of_defaulted? .tablesPerTenant known tables,
          Setting.read_of_defaulted? .rowsPerTable known rows,
          Setting.read_of_defaulted? .rowConcurrency known rowConcurrency,
          Setting.read_of_defaulted? .searchRequests known searches,
          Setting.read_of_defaulted? .searchConcurrency known searchConcurrency,
          Setting.read_of_defaulted? .seed known seed]
      · cases isRead

theorem RetryRules.eq_of_defaulted?
    {rules : RetryRules}
    (isRead : Source.defaulted? {} (RetryRules.read? {}) part = some rules) :
    rules =
      { maxAttempts := Setting.read .maxAttempts part
        jitterMinMs := Setting.read .jitterMin part
        jitterMaxMs := Setting.read .jitterMax part
        statuses := Setting.read .statuses part
        bodyPattern := Setting.read .bodyPattern part } := by
  cases part with
  | none => cases isRead; rfl
  | some data =>
      simp only [Source.defaulted?, read?, Option.bind_eq_bind, Option.bind_eq_some_iff] at isRead
      obtain ⟨fields, known, isRead⟩ := isRead
      split at isRead
      · simp only [Option.bind_eq_some_iff, Option.pure_def, Option.some.injEq] at isRead
        obtain ⟨_, attempts, _, least, _, most, _, statuses, _, pattern, rfl⟩ := isRead
        rw [Setting.read_of_defaulted? .maxAttempts known attempts,
          Setting.read_of_defaulted? .jitterMin known least,
          Setting.read_of_defaulted? .jitterMax known most,
          Setting.read_of_defaulted? .statuses known statuses,
          Setting.read_of_defaulted? .bodyPattern known pattern]
      · cases isRead

theorem Connection.eq_of_defaulted?
    {connection : Connection}
    (isRead : Source.defaulted? {} (Connection.read? {}) part = some connection) :
    connection =
      { timeout := Setting.read .timeout part
        connectTimeout := Setting.read .connectTimeout part
        userAgent := Setting.read .userAgent part
        maxIdlePerHost := Setting.read .maxIdlePerHost part } := by
  cases part with
  | none => cases isRead; rfl
  | some data =>
      simp only [Source.defaulted?, read?, Option.bind_eq_bind, Option.bind_eq_some_iff] at isRead
      obtain ⟨fields, known, isRead⟩ := isRead
      split at isRead
      · simp only [Option.bind_eq_some_iff, Option.pure_def, Option.some.injEq] at isRead
        obtain ⟨_, timeout, _, connectTimeout, _, userAgent, _, maxIdle, rfl⟩ := isRead
        rw [Setting.read_of_defaulted? .timeout known timeout,
          Setting.read_of_defaulted? .connectTimeout known connectTimeout,
          Setting.read_of_defaulted? .userAgent known userAgent,
          Setting.read_of_defaulted? .maxIdlePerHost known maxIdle]
      · cases isRead

theorem Logging.eq_of_defaulted?
    {logging : Logging}
    (isRead : Source.defaulted? {} (Logging.read? {}) part = some logging) :
    logging =
      { level := Setting.read .level part
        format := Setting.read .format part
        includeLocation := Setting.read .includeLocation part } := by
  cases part with
  | none => cases isRead; rfl
  | some data =>
      simp only [Source.defaulted?, read?, Option.bind_eq_bind, Option.bind_eq_some_iff] at isRead
      obtain ⟨fields, known, isRead⟩ := isRead
      split at isRead
      · simp only [Option.bind_eq_some_iff, Option.pure_def, Option.some.injEq] at isRead
        obtain ⟨_, level, _, format, _, location, rfl⟩ := isRead
        rw [Setting.read_of_defaulted? .level known level,
          Setting.read_of_defaulted? .format known format,
          Setting.read_of_defaulted? .includeLocation known location]
      · cases isRead

theorem Output.eq_of_defaulted?
    {output : Output}
    (isRead : Source.defaulted? {} (Output.read? {}) part = some output) :
    output = { path := Setting.read .outputPath part, pretty := Setting.read .pretty part } := by
  cases part with
  | none => cases isRead; rfl
  | some data =>
      simp only [Source.defaulted?, read?, Option.bind_eq_bind, Option.bind_eq_some_iff] at isRead
      obtain ⟨fields, known, isRead⟩ := isRead
      split at isRead
      · simp only [Option.bind_eq_some_iff, Option.pure_def, Option.some.injEq] at isRead
        obtain ⟨_, path, _, pretty, rfl⟩ := isRead
        rw [Setting.read_of_defaulted? .outputPath known path,
          Setting.read_of_defaulted? .pretty known pretty]
      · cases isRead

/-- Settings that are read from data have the values at their places, or their
defaults. -/
theorem get_of_read?
    {config : Config}
    (isRead : read? data = some config)
    (setting : Setting) :
    setting.get config = (setting.inData? data).getD setting.default := by
  simp only [read?, Option.bind_eq_bind, Option.bind_eq_some_iff] at isRead
  obtain ⟨parts, known, isRead⟩ := isRead
  split at isRead
  · simp only [Option.bind_eq_some_iff, Option.pure_def, Option.some.injEq] at isRead
    obtain ⟨_, target, _, workload, _, retry, _, connection, _, logging, _, output, rfl⟩ := isRead
    rw [Target.eq_of_defaulted? target, Workload.eq_of_defaulted? workload,
      RetryRules.eq_of_defaulted? retry, Connection.eq_of_defaulted? connection,
      Logging.eq_of_defaulted? logging, Output.eq_of_defaulted? output]
    unfold Setting.inData?
    cases setting <;> simp only [Setting.home, Source.field?, known] <;> rfl
  · cases isRead

end Data
end Config
end TenantLoad
