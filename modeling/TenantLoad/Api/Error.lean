import TenantLoad.Retry.Loop

/-!
# Failures of a call to the service

A call fails before there is an answer, by the status of the answer, or by
its body.  Only the first two can be worth another attempt.
-/

namespace TenantLoad
namespace Api

/-- Why a call failed. -/
inductive Error where
  /-- There was no answer. -/
  | transport (message : String)
  /-- The answer has a status outside the two hundreds. -/
  | rejected (status : Nat) (body : String)
  /-- The answer lacks a field. -/
  | missingField (status : Nat) (field : String)
  /-- The body of the answer has another shape. -/
  | invalidBody (status : Nat) (message : String)
  /-- The address is no usable URL. -/
  | invalidUrl (message : String)
  /-- The request or the client could not be built. -/
  | client (message : String)
  deriving Repr, DecidableEq

namespace Error

/-- The text of a failure. -/
def message : Error → String
  | .transport message => s!"Transport error: {message}"
  | .rejected status body => s!"HTTP {status}: {body}"
  | .missingField status field => s!"Response missing {field} (HTTP {status})"
  | .invalidBody status message => s!"Invalid response body (HTTP {status}): {message}"
  | .invalidUrl message => s!"Invalid URL: {message}"
  | .client message => s!"Client build error: {message}"

/-- The status of the answer, if there was one. -/
def status? : Error → Option Nat
  | .rejected status _ | .missingField status _ | .invalidBody status _ => some status
  | .transport _ | .invalidUrl _ | .client _ => none

/-- The body of an answer that failed by its status. -/
def body? : Error → Option String
  | .rejected _ body => some body
  | _ => none

/-- Whether there was no answer. -/
def isTransport : Error → Bool
  | .transport _ => true
  | _ => false

/-- Whether an answer was received whose body has another shape. -/
def isResponseShape : Error → Bool
  | .missingField .. | .invalidBody .. => true
  | _ => false

/-- The label that failures are counted under. -/
def kind : Error → String
  | .transport _ => "transport"
  | .rejected .. => "http_status"
  | .missingField .. | .invalidBody .. => "response_shape"
  | .invalidUrl _ => "invalid_url"
  | .client _ => "client"

/-- The verdict of a classifier: it is asked only about failures without an
answer and failures by status. -/
def verdict (classifier : Retry.Classifier) : Error → Retry.Verdict
  | .transport _ => classifier.classify none none
  | .rejected status body => classifier.classify (some status) (some body)
  | _ => .fatal

instance : Retry.Retryable Error where
  verdict := verdict
  kind := kind
  message := message

end Error
end Api
end TenantLoad
