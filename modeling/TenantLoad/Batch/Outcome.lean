import TenantLoad.Retry.Loop

/-!
# Outcomes of the items of a batch

Every item of a batch ends as succeeded, failed or never started.  An item
fails because its retry loop gave up or because it crashed; a crash counts as
one attempt.
-/

namespace TenantLoad
namespace Batch

/-- What a batch does when an item fails. -/
inductive Mode where
  /-- Run every item and report all failures together. -/
  | failSoft
  /-- Start no further item after the first failure. -/
  | failFast
  deriving Repr, DecidableEq

/-- Why an item failed. -/
inductive ItemFailure (Error : Type) where
  | gaveUp (failure : Retry.Failure Error)
  | crashed (message : String)
  deriving Repr, DecidableEq

namespace ItemFailure

/-- The label that crashes are counted under. -/
def crashKind : String := "panic"

/-- The label that a failure is counted under. -/
def kind [Retry.Retryable Error] : ItemFailure Error → String
  | .gaveUp failure => Retry.Retryable.kind failure.lastError
  | .crashed _ => crashKind

/-- The number of attempts made. -/
def attempts : ItemFailure Error → Nat
  | .gaveUp failure => failure.attempts
  | .crashed _ => 1

/-- The text of a failure. -/
def message [Retry.Retryable Error] : ItemFailure Error → String
  | .gaveUp failure => failure.message
  | .crashed message => s!"task panicked: {message}"

end ItemFailure

/-- How an item ended. -/
inductive Outcome (Value Error : Type) where
  | succeeded (value : Value) (attempts : Nat)
  | failed (failure : ItemFailure Error)
  | notStarted
  deriving Repr, DecidableEq

namespace Outcome

/-- The outcome of an item whose retry loop ended. -/
def ofEnding : Retry.Ending Value Error → Outcome Value Error
  | .succeeded value attempts => .succeeded value attempts
  | .failed failure => .failed (.gaveUp failure)
  | .crashed message => .failed (.crashed message)

/-- Whether the item succeeded. -/
def isSuccess : Outcome Value Error → Bool
  | .succeeded .. => true
  | _ => false

/-- Whether the item failed. -/
def isFailure : Outcome Value Error → Bool
  | .failed _ => true
  | _ => false

/-- Whether the item was started. -/
def isStarted : Outcome Value Error → Bool
  | .notStarted => false
  | _ => true

/-- The value of an item that succeeded. -/
def value? : Outcome Value Error → Option Value
  | .succeeded value _ => some value
  | _ => none

/-- The failure of an item that failed. -/
def failure? : Outcome Value Error → Option (ItemFailure Error)
  | .failed failure => some failure
  | _ => none

@[simp] theorem isStarted_ofEnding (ending : Retry.Ending Value Error) :
    (ofEnding ending).isStarted = true := by
  cases ending <;> rfl

end Outcome
end Batch
end TenantLoad
