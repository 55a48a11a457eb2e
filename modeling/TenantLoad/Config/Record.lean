import TenantLoad.Config.Settings
import TenantLoad.Json.Record

/-!
# The written form of settings

Settings are written as a record of six sections and read back from any
source.  A section or a field that is absent has its default, and names that
do not belong to the settings are skipped.
-/

namespace TenantLoad
namespace Config

variable {Data : Type} [Source Data]

/-- A word of 64 bits. -/
def readWord64? (data : Data) : Option UInt64 := (Source.natural? 64 data).map UInt64.ofNat

/-- A word of 32 bits. -/
def readWord32? (data : Data) : Option UInt32 := (Source.natural? 32 data).map UInt32.ofNat

/-- A word of 16 bits. -/
def readWord16? (data : Data) : Option UInt16 := (Source.natural? 16 data).map UInt16.ofNat

/-- A duration in whole seconds. -/
def readSeconds? (data : Data) : Option Duration := (Source.natural? 64 data).map Duration.ofSeconds

/-- A word of 64 bits, written. -/
def word64 (value : UInt64) : Json := .natural value.toNat

namespace Target

/-- The names of the fields. -/
def fieldNames : List String := ["base_url"]

/-- The written form. -/
def toJson (target : Target) : Json := .object [("base_url", .text target.baseUrl)]

/-- Read the section; an absent field keeps the value of the given one. -/
def read? (fallback : Target) (data : Data) : Option Target := do
  match ← Source.fields? fieldNames data with
  | [baseUrl] =>
    pure { baseUrl := ← Source.defaulted? fallback.baseUrl Source.text? baseUrl }
  | _ => none

end Target

namespace Workload

/-- The names of the fields. -/
def fieldNames : List String :=
  ["tenants", "tables_per_tenant", "rows_per_table", "row_concurrency", "search_requests",
    "search_concurrency", "seed"]

/-- The written form: no seed is left out. -/
def toJson (workload : Workload) : Json :=
  .object
    ([("tenants", word64 workload.tenants),
      ("tables_per_tenant", word64 workload.tablesPerTenant),
      ("rows_per_table", word64 workload.rowsPerTable),
      ("row_concurrency", word64 workload.rowConcurrency),
      ("search_requests", word64 workload.searchRequests),
      ("search_concurrency", word64 workload.searchConcurrency)] ++
      match workload.seed with
      | none => []
      | some seed => [("seed", word64 seed)])

/-- Read the section; an absent field keeps the value of the given one. -/
def read? (fallback : Workload) (data : Data) : Option Workload := do
  match ← Source.fields? fieldNames data with
  | [tenants, tables, rows, rowConcurrency, searches, searchConcurrency, seed] =>
    pure
      { tenants := ← Source.defaulted? fallback.tenants readWord64? tenants
        tablesPerTenant := ← Source.defaulted? fallback.tablesPerTenant readWord64? tables
        rowsPerTable := ← Source.defaulted? fallback.rowsPerTable readWord64? rows
        rowConcurrency := ← Source.defaulted? fallback.rowConcurrency readWord64? rowConcurrency
        searchRequests := ← Source.defaulted? fallback.searchRequests readWord64? searches
        searchConcurrency :=
          ← Source.defaulted? fallback.searchConcurrency readWord64? searchConcurrency
        seed := ← Source.defaulted? fallback.seed (Source.optional? readWord64?) seed }
  | _ => none

end Workload

namespace RetryRules

/-- The names of the fields. -/
def fieldNames : List String :=
  ["max_attempts", "jitter_min_ms", "jitter_max_ms", "retryable_statuses",
    "retryable_body_pattern"]

/-- The written form. -/
def toJson (rules : RetryRules) : Json :=
  .object
    [("max_attempts", .natural rules.maxAttempts.toNat),
      ("jitter_min_ms", word64 rules.jitterMinMs),
      ("jitter_max_ms", word64 rules.jitterMaxMs),
      ("retryable_statuses", .list (rules.statuses.map fun status => .natural status.toNat)),
      ("retryable_body_pattern", .text rules.bodyPattern)]

/-- Read the section; an absent field keeps the value of the given one. -/
def read? (fallback : RetryRules) (data : Data) : Option RetryRules := do
  match ← Source.fields? fieldNames data with
  | [maxAttempts, jitterMin, jitterMax, statuses, pattern] =>
    pure
      { maxAttempts := ← Source.defaulted? fallback.maxAttempts readWord32? maxAttempts
        jitterMinMs := ← Source.defaulted? fallback.jitterMinMs readWord64? jitterMin
        jitterMaxMs := ← Source.defaulted? fallback.jitterMaxMs readWord64? jitterMax
        statuses := ← Source.defaulted? fallback.statuses (Source.list? readWord16?) statuses
        bodyPattern := ← Source.defaulted? fallback.bodyPattern Source.text? pattern }
  | _ => none

end RetryRules

namespace Connection

/-- The names of the fields. -/
def fieldNames : List String :=
  ["timeout", "connection_timeout", "user_agent", "max_idle_per_host"]

/-- The written form: durations in whole seconds. -/
def toJson (connection : Connection) : Json :=
  .object
    [("timeout", .natural connection.timeout.seconds),
      ("connection_timeout", .natural connection.connectTimeout.seconds),
      ("user_agent", .text connection.userAgent),
      ("max_idle_per_host", word64 connection.maxIdlePerHost)]

/-- Read the section; an absent field keeps the value of the given one. -/
def read? (fallback : Connection) (data : Data) : Option Connection := do
  match ← Source.fields? fieldNames data with
  | [timeout, connectTimeout, userAgent, maxIdle] =>
    pure
      { timeout := ← Source.defaulted? fallback.timeout readSeconds? timeout
        connectTimeout := ← Source.defaulted? fallback.connectTimeout readSeconds? connectTimeout
        userAgent := ← Source.defaulted? fallback.userAgent Source.text? userAgent
        maxIdlePerHost := ← Source.defaulted? fallback.maxIdlePerHost readWord64? maxIdle }
  | _ => none

end Connection

namespace Logging

/-- The names of the fields. -/
def fieldNames : List String := ["level", "format", "include_location"]

/-- The written form. -/
def toJson (logging : Logging) : Json :=
  .object
    [("level", .text logging.level.name), ("format", .text logging.format.name),
      ("include_location", .boolean logging.includeLocation)]

/-- Read the section; an absent field keeps the value of the given one. -/
def read? (fallback : Logging) (data : Data) : Option Logging := do
  match ← Source.fields? fieldNames data with
  | [level, format, location] =>
    pure
      { level := ← Source.defaulted? fallback.level (Source.choice? LogLevel.names) level
        format := ← Source.defaulted? fallback.format (Source.choice? LogFormat.names) format
        includeLocation :=
          ← Source.defaulted? fallback.includeLocation Source.boolean? location }
  | _ => none

end Logging

namespace Output

/-- The names of the fields. -/
def fieldNames : List String := ["path", "pretty"]

/-- The written form: no path is left out. -/
def toJson (output : Output) : Json :=
  .object
    ((match output.path with
      | none => []
      | some path => [("path", .text path)]) ++ [("pretty", .boolean output.pretty)])

/-- Read the section; an absent field keeps the value of the given one. -/
def read? (fallback : Output) (data : Data) : Option Output := do
  match ← Source.fields? fieldNames data with
  | [path, pretty] =>
    pure
      { path := ← Source.defaulted? fallback.path (Source.optional? Source.text?) path
        pretty := ← Source.defaulted? fallback.pretty Source.boolean? pretty }
  | _ => none

end Output

/-- The names of the sections. -/
def sectionNames : List String := ["target", "workload", "retry", "http", "logging", "output"]

/-- The written form of settings. -/
def toJson (config : Config) : Json :=
  .object
    [("target", config.target.toJson), ("workload", config.workload.toJson),
      ("retry", config.retry.toJson), ("http", config.connection.toJson),
      ("logging", config.logging.toJson), ("output", config.output.toJson)]

/-- Read settings: what is absent has its default. -/
def read? (data : Data) : Option Config := do
  match ← Source.fields? sectionNames data with
  | [target, workload, retry, connection, logging, output] =>
    pure
      { target := ← Source.defaulted? {} (Target.read? {}) target
        workload := ← Source.defaulted? {} (Workload.read? {}) workload
        retry := ← Source.defaulted? {} (RetryRules.read? {}) retry
        connection := ← Source.defaulted? {} (Connection.read? {}) connection
        logging := ← Source.defaulted? {} (Logging.read? {}) logging
        output := ← Source.defaulted? {} (Output.read? {}) output }
  | _ => none

end Config
end TenantLoad
