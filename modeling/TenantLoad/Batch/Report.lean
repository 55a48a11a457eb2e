import TenantLoad.Batch.Outcome
import TenantLoad.Text.Excerpt
import TenantLoad.Tally

/-!
# The report of a batch and its result

A report holds one outcome for every item, the failed item that settled first
and whether shutdown kept items from starting.  `Report.result` is the values
of all items, or the one failure that stands for the whole batch.
-/

namespace TenantLoad
namespace Batch

/-- The outcomes of a batch, in item order. -/
structure Report (Value Error : Type) where
  mode : Mode
  outcomes : List (Outcome Value Error)
  /-- The failed item that settled first. -/
  firstFailure : Option Nat
  /-- Whether shutdown kept items from starting. -/
  cancelled : Bool
  deriving Repr, DecidableEq

/-- Why a batch failed. -/
inductive Failure where
  /-- All items ran and some failed. -/
  | aggregate (failed total : Nat) (byKind : Tally) (examples : List String)
  /-- One failure stopped the batch. -/
  | aborted (index attempts : Nat) (kind message : String)
  /-- Shutdown kept items from starting. -/
  | cancelled (completed failed total : Nat)
  deriving Repr, DecidableEq

namespace Failure

/-- The characters of a message that an example keeps. -/
def exampleLimit : Nat := 160

/-- The number of examples that are kept. -/
def exampleCount : Nat := 5

/-- The counts of failures by kind. -/
def kindsText (byKind : Tally) : String :=
  "\x7b" ++ ", ".intercalate (byKind.map fun (kind, count) => s!"{kind}={count}") ++ "\x7d"

/-- The examples, one to a line. -/
def examplesText (examples : List String) : String :=
  "\n".intercalate (examples.map fun line => "  - " ++ line)

/-- The text of a failure. -/
def message : Failure → String
  | .aggregate failed total byKind examples =>
    s!"{failed} of {total} item(s) ultimately failed. By type: {kindsText byKind}\nExamples:\n" ++
      examplesText examples
  | .aborted index attempts kind message =>
    s!"item {index} failed after {attempts} attempt(s) ({kind}): {message}"
  | .cancelled completed failed total =>
    s!"batch cancelled after {completed} of {total} item(s) settled ({failed} failed)"

/-- The number of failed items that a failure speaks of. -/
def failedCount : Failure → Nat
  | .aggregate failed .. => failed
  | .cancelled _ failed _ => failed
  | .aborted .. => 1

/-- Whether shutdown is the reason. -/
def isCancelled : Failure → Bool
  | .cancelled .. => true
  | _ => false

end Failure

namespace Report

/-- The number of items. -/
def total (report : Report Value Error) : Nat := report.outcomes.length

/-- The number of items that succeeded. -/
def succeeded (report : Report Value Error) : Nat := report.outcomes.countP Outcome.isSuccess

/-- The number of items that failed. -/
def failed (report : Report Value Error) : Nat := report.outcomes.countP Outcome.isFailure

/-- The number of items that were never started. -/
def notStarted (report : Report Value Error) : Nat :=
  report.outcomes.countP fun outcome => !outcome.isStarted

/-- The failures in item order. -/
def failures (report : Report Value Error) : List (ItemFailure Error) :=
  report.outcomes.filterMap Outcome.failure?

/-- The number of failures of each kind. -/
def kindCounts [Retry.Retryable Error] (failures : List (ItemFailure Error)) : Tally :=
  Tally.ofList (failures.map ItemFailure.kind)

/-- The line that shows a failure as an example. -/
def exampleLine [Retry.Retryable Error] (failure : ItemFailure Error) : String :=
  s!"{failure.kind}: {Text.excerpt Failure.exampleLimit failure.message}"

/-- The first failures as examples. -/
def examples [Retry.Retryable Error] (failures : List (ItemFailure Error)) : List String :=
  (failures.take Failure.exampleCount).map exampleLine

/-- The failure that stopped a fail-fast batch. -/
def abortion? [Retry.Retryable Error] (report : Report Value Error) : Option Failure :=
  match report.mode, report.firstFailure with
  | .failFast, some index =>
    match report.outcomes[index]? with
    | some (.failed failure) =>
      some (.aborted index failure.attempts failure.kind
        (Text.excerpt Failure.exampleLimit failure.message))
    | _ => none
  | _, _ => none

/-- The values of all items in order, or the failure of the batch: first the
failure that stopped it, then its cancellation, then all failures together. -/
def result [Retry.Retryable Error] (report : Report Value Error) :
    Except Failure (List Value) :=
  match report.abortion? with
  | some failure => .error failure
  | none =>
    if report.cancelled then
      .error (.cancelled (report.total - report.notStarted) report.failed report.total)
    else if 0 < report.failed then
      .error (.aggregate report.failed report.total (kindCounts report.failures)
        (examples report.failures))
    else
      .ok (report.outcomes.filterMap Outcome.value?)

end Report
end Batch
end TenantLoad
