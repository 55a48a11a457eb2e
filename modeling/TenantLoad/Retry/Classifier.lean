import TenantLoad.Pattern.Search
import TenantLoad.Pattern.Reader

/-!
# Which failures are worth another attempt

A failure without a status never reached the service and is retried.  A
status of the classifier's set is retried whatever the body; status 400 is
retried when the body shows one of the known signatures; every other status
is fatal.
-/

namespace TenantLoad
namespace Retry

/-- Whether a failed attempt may be repeated. -/
inductive Verdict where
  | retry
  | fatal
  deriving Repr, DecidableEq

/-- The statuses that are retried unless others are chosen. -/
def defaultStatuses : List Nat := [409, 425, 429, 500, 502, 503, 504]

/-- The signatures in the body of a 400 answer that are retried unless others
are chosen. -/
def defaultSignatures : String := "40P01|deadlock|serializ|timeout|insert failed"

/-- The status whose body decides. -/
def bodyStatus : Nat := 400

/-- What is retried. -/
structure Classifier where
  statuses : List Nat
  signatures : Pattern
  deriving Repr, DecidableEq

namespace Classifier

/-- The classifier of a list of statuses and the text of a pattern, which is
read regardless of case. -/
def ofText? (statuses : List Nat) (signatures : String) : Option Classifier :=
  (Pattern.read? true signatures).map fun pattern => ⟨statuses, pattern⟩

/-- The signature that is a literal word regardless of case. -/
def signature (word : String) : Pattern :=
  Pattern.ofSequence (word.toList.map Pattern.folded)

/-- The classifier that is used unless another is chosen. -/
def standard : Classifier :=
  { statuses := defaultStatuses
    signatures :=
      Pattern.ofAlternatives (signature "40P01")
        [signature "deadlock", signature "serializ", signature "timeout",
          signature "insert failed"] }

/-- The verdict on a failure with the given status and body. -/
def classify (classifier : Classifier) (status : Option Nat) (body : Option String) : Verdict :=
  match status with
  | none => .retry
  | some status =>
    if classifier.statuses.contains status then .retry
    else if status = bodyStatus then
      match body with
      | some body => if Pattern.isMatch classifier.signatures body.toList then .retry else .fatal
      | none => .fatal
    else .fatal

end Classifier
end Retry
end TenantLoad
