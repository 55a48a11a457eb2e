import TenantLoad.Duration
import TenantLoad.Retry.Classifier
import TenantLoad.Retry.Policy

/-!
# Settings of a load run

The settings of a run in six sections.  Every field has a default, which is
the value it takes when nothing else is given.
-/

namespace TenantLoad
namespace Config

/-- Where the service is. -/
structure Target where
  baseUrl : String := "http://127.0.0.1:8080"
  deriving Repr, DecidableEq

/-- How much every tenant does. -/
structure Workload where
  tenants : UInt64 := 3
  tablesPerTenant : UInt64 := 2
  rowsPerTable : UInt64 := 2000
  rowConcurrency : UInt64 := 5
  searchRequests : UInt64 := 200
  searchConcurrency : UInt64 := 50
  /-- The seed that all random choices follow from, if they are to repeat. -/
  seed : Option UInt64 := none
  deriving Repr, DecidableEq

/-- Which failures are retried, how often and after what delays. -/
structure RetryRules where
  maxAttempts : UInt32 := 4
  jitterMinMs : UInt64 := 25
  jitterMaxMs : UInt64 := 75
  statuses : List UInt16 := [409, 425, 429, 500, 502, 503, 504]
  bodyPattern : String := TenantLoad.Retry.defaultSignatures
  deriving Repr, DecidableEq

/-- How connections are made. -/
structure Connection where
  timeout : Duration := .ofSeconds 30
  connectTimeout : Duration := .ofSeconds 10
  userAgent : String := "stampede/0.1.0"
  /-- The idle connections that are kept for each host. -/
  maxIdlePerHost : UInt64 := 32
  deriving Repr, DecidableEq

/-- How much is logged. -/
inductive LogLevel where
  | error
  | warn
  | info
  | debug
  | trace
  deriving Repr, DecidableEq

/-- The form of log lines. -/
inductive LogFormat where
  | json
  | text
  | compact
  | pretty
  deriving Repr, DecidableEq

/-- What is logged. -/
structure Logging where
  level : LogLevel := .info
  format : LogFormat := .text
  includeLocation : Bool := false
  deriving Repr, DecidableEq

/-- Where the summary of a run is written. -/
structure Output where
  path : Option String := none
  pretty : Bool := true
  deriving Repr, DecidableEq

namespace RetryRules

/-- The policy of the rules: at least one attempt, and the jitter window
between the bounds in either order. -/
def policy (rules : RetryRules) : TenantLoad.Retry.Policy :=
  { maxAttempts := max rules.maxAttempts 1
    window :=
      .between (.ofMilliseconds rules.jitterMinMs.toNat) (.ofMilliseconds rules.jitterMaxMs.toNat) }

/-- The classifier of the rules, if their pattern can be read. -/
def classifier? (rules : RetryRules) : Option TenantLoad.Retry.Classifier :=
  TenantLoad.Retry.Classifier.ofText? (rules.statuses.map UInt16.toNat) rules.bodyPattern

end RetryRules

namespace LogLevel

/-- The name of a level. -/
def name : LogLevel → String
  | .error => "error"
  | .warn => "warn"
  | .info => "info"
  | .debug => "debug"
  | .trace => "trace"

/-- All levels by their names. -/
def names : List (String × LogLevel) :=
  [.error, .warn, .info, .debug, .trace].map fun level => (level.name, level)

end LogLevel

namespace LogFormat

/-- The name of a format. -/
def name : LogFormat → String
  | .json => "json"
  | .text => "text"
  | .compact => "compact"
  | .pretty => "pretty"

/-- All formats by their names. -/
def names : List (String × LogFormat) :=
  [.json, .text, .compact, .pretty].map fun format => (format.name, format)

end LogFormat
end Config

/-- The settings of a run. -/
structure Config where
  target : Config.Target := {}
  workload : Config.Workload := {}
  retry : Config.RetryRules := {}
  connection : Config.Connection := {}
  logging : Config.Logging := {}
  output : Config.Output := {}
  deriving Repr, DecidableEq

/-- The settings that hold when nothing is given. -/
def Config.standard : Config := {}

end TenantLoad
