import TenantLoad.Config.Error
import TenantLoad.Config.Settings
import TenantLoad.Decimal.Layout
import TenantLoad.Text.Category
import TenantLoad.Url.Reader

/-!
# Validation of settings

Every section has bounds for its values.  The checks of a section run in
order and the first one that fails tells the field and the value.
-/

namespace TenantLoad
namespace Config

/-- Values that bounds can be put on. -/
class Bounded (Value : Type) where
  /-- The least value that counts as nothing. -/
  zero : Value
  /-- Whether the first value is at most the second. -/
  atMost : Value → Value → Bool
  /-- Whether the first value is greater than the second. -/
  exceeds : Value → Value → Bool
  /-- A value as it is told. -/
  text : Value → String

instance : Bounded Int where
  zero := 0
  atMost left right := left ≤ right
  exceeds left right := right < left
  text := toString

instance : Bounded UInt64 where
  zero := 0
  atMost left right := left ≤ right
  exceeds left right := right < left
  text value := toString value.toNat

instance : Bounded UInt32 where
  zero := 0
  atMost left right := left ≤ right
  exceeds left right := right < left
  text value := toString value.toNat

instance : Bounded Nat where
  zero := 0
  atMost left right := left ≤ right
  exceeds left right := right < left
  text := toString

instance : Bounded Float where
  zero := 0.0
  atMost left right := left ≤ right
  exceeds left right := left > right
  text value := Decimal.messageLayout.text value.toBits

instance : Bounded String where
  zero := ""
  atMost left right := left ≤ right
  exceeds left right := right < left
  text value := value

/-- What a check gives: nothing, or why it failed. -/
abbrev Check := Except Error Unit

namespace Check

/-- A check that fails with a message unless a condition holds. -/
def require (domain : String) (condition : Bool) (message : String) : Check :=
  if condition then .ok () else .error (.invalid domain message)

/-- Whether a text has only blanks. -/
def isBlank (text : String) : Bool := text.toList.all Text.isSpace

/-- A text that is not blank. -/
def filled (value field domain : String) : Check :=
  require domain (!isBlank value) s!"{field} cannot be empty"

/-- A value above zero. -/
def positive [Bounded Value] (value : Value) (field domain : String) : Check :=
  require domain (!Bounded.atMost value Bounded.zero)
    s!"{field} must be greater than 0, got {Bounded.text value}"

/-- Two bounds in order. -/
def ordered [Bounded Value] (least most : Value) (field domain : String) : Check :=
  require domain (!Bounded.exceeds least most)
    s!"{field} lower bound {Bounded.text least} exceeds upper bound {Bounded.text most}"

/-- The schemes that services are reached by. -/
def schemes : List String := ["http", "https"]

/-- The URL of a service. -/
def url (value field domain : String) : Check := do
  filled value field domain
  match Url.parse value with
  | .error fault => .error (.invalid domain s!"{field} has invalid URL format: {fault.message}")
  | .ok url =>
    require domain (schemes.contains url.scheme)
      s!"{field} scheme '{url.scheme}' not supported (only http/https)"

/-- A text that can be read as a pattern. -/
def pattern (value field domain : String) : Check :=
  require domain (Pattern.read? false value).isSome
    s!"{field} is not a valid pattern: {Pattern.fault}"

/-- A status of an answer. -/
def status (value : Nat) (field domain : String) : Check :=
  require domain (decide (100 ≤ value ∧ value ≤ 599))
    s!"{field} contains invalid HTTP status {value}"

end Check

/-- Check the target. -/
def Target.validate (target : Target) : Check := Check.url target.baseUrl "base_url" "target"

/-- Check the workload. -/
def Workload.validate (workload : Workload) : Check := do
  Check.positive workload.tenants "tenants" "workload"
  Check.positive workload.rowConcurrency "row_concurrency" "workload"
  Check.positive workload.searchConcurrency "search_concurrency" "workload"

/-- Check the rules of retrying. -/
def RetryRules.validate (rules : RetryRules) : Check := do
  Check.positive rules.maxAttempts "max_attempts" "retry"
  Check.ordered rules.jitterMinMs rules.jitterMaxMs "jitter_ms" "retry"
  rules.statuses.forM fun status => Check.status status.toNat "retryable_statuses" "retry"
  Check.pattern rules.bodyPattern "retryable_body_pattern" "retry"

/-- Check the connection. -/
def Connection.validate (connection : Connection) : Check := do
  Check.positive connection.timeout.seconds "timeout" "http"
  Check.positive connection.connectTimeout.seconds "connection_timeout" "http"
  Check.filled connection.userAgent "user_agent" "http"

/-- Check the output; `isDirectory` tells which paths are directories. -/
def Output.validate (isDirectory : String → Bool) (output : Output) : Check :=
  match output.path with
  | none => .ok ()
  | some path => do
    Check.filled path "path" "output"
    Check.require "output" (!isDirectory path) s!"path {path} is a directory"

/-- Check all settings; anything may be logged. -/
def validate (isDirectory : String → Bool) (config : Config) : Check := do
  config.target.validate
  config.workload.validate
  config.retry.validate
  config.connection.validate
  config.output.validate isDirectory

end Config
end TenantLoad
