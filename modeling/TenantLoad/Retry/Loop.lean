import TenantLoad.Retry.Policy
import TenantLoad.Retry.Classifier

/-!
# The retry loop

An operation is attempted until it returns a value, fails fatally, uses up
its budget or crashes.  `next` is the decision after one attempt; `run`
follows it through a script that gives the result and the length of every
attempt, on a clock that only attempts and delays advance.
-/

namespace TenantLoad
namespace Retry

/-- What an error tells a retry loop. -/
class Retryable (Error : Type) where
  /-- The verdict of a classifier. -/
  verdict : Classifier → Error → Verdict
  /-- The label that failures are counted under. -/
  kind : Error → String
  /-- The text of the error. -/
  message : Error → String

/-- How one attempt ended. -/
inductive Attempt (Value Error : Type) where
  | returned (value : Value)
  | failed (error : Error)
  | crashed (message : String)
  deriving Repr, DecidableEq

/-- Why a loop gave up. -/
inductive Failure (Error : Type) where
  | exhausted (attempts : Nat) (lastError : Error)
  | fatal (attempts : Nat) (error : Error)
  deriving Repr, DecidableEq

namespace Failure

/-- The number of attempts made. -/
def attempts : Failure Error → Nat
  | .exhausted attempts _ => attempts
  | .fatal attempts _ => attempts

/-- The error of the last attempt. -/
def lastError : Failure Error → Error
  | .exhausted _ error => error
  | .fatal _ error => error

/-- The text of a failure. -/
def message [Retryable Error] : Failure Error → String
  | .exhausted attempts error =>
    s!"Gave up after {attempts} attempt(s). Last error: {Retryable.message error}"
  | .fatal attempts error => s!"Fatal error on attempt {attempts}: {Retryable.message error}"

end Failure

/-- How a loop ended. -/
inductive Ending (Value Error : Type) where
  | succeeded (value : Value) (attempts : Nat)
  | failed (failure : Failure Error)
  | crashed (message : String)
  deriving Repr, DecidableEq

/-- The crash of a draw from a window whose bounds are out of order. -/
def emptyRangeMessage : String := "cannot sample empty range"

/-- What follows an attempt. -/
inductive Next (Value Error Source : Type) where
  | settle (ending : Ending Value Error)
  | backOff (delay : Duration) (generator : Source)

variable {Source : Type} [Random.Words Source]

/-- Decide what follows the attempt of the given number. -/
def next [Retryable Error] (policy : Policy) (classifier : Classifier)
    (attempt : Nat) (generator : Source) :
    Attempt Value Error → Next Value Error Source
  | .returned value => .settle (.succeeded value attempt)
  | .crashed message => .settle (.crashed message)
  | .failed error =>
    match Retryable.verdict classifier error with
    | .fatal => .settle (.failed (.fatal attempt error))
    | .retry =>
      if policy.budget ≤ attempt then
        .settle (.failed (.exhausted attempt error))
      else
        match policy.window.draw generator with
        | some (delay, generator) => .backOff delay generator
        | none => .settle (.crashed emptyRangeMessage)

/-- One attempt on the clock, in milliseconds. -/
structure Stay where
  attempt : Nat
  start : Nat
  finish : Nat
  deriving Repr, DecidableEq

/-- A finished run of the loop. -/
structure Run (Value Error Source : Type) where
  /-- The attempts in order. -/
  stays : List Stay
  /-- The delays drawn between them. -/
  delays : List Duration
  ending : Ending Value Error
  /-- The generator after the last draw. -/
  generator : Source

/-- A loop backs off after a failure that is worth another attempt, if there is
one left and a delay can be drawn. -/
theorem next_eq_backOff_iff [Retryable Error] {policy : Policy} {classifier : Classifier}
    {attempt : Nat} {generator following : Source} {result : Attempt Value Error}
    {delay : Duration} :
    next policy classifier attempt generator result = .backOff delay following ↔
      (∃ error, result = .failed error ∧ Retryable.verdict classifier error = .retry) ∧
        attempt < policy.budget ∧
        policy.window.draw generator = some (delay, following) := by
  cases result with
  | returned value => simp [next]
  | crashed message => simp [next]
  | failed error =>
      simp only [next, Attempt.failed.injEq, exists_eq_left']
      cases Retryable.verdict classifier error with
      | fatal => simp
      | retry =>
          by_cases spent : policy.budget ≤ attempt
          · simp [spent, Nat.not_lt.mpr spent]
          · rw [if_neg spent]
            cases policy.window.draw generator with
            | none => simp
            | some drawn => simp [Nat.lt_of_not_le spent, Prod.ext_iff]

/-- A loop backs off only within its budget. -/
theorem lt_budget_of_next_eq_backOff [Retryable Error] {policy : Policy}
    {classifier : Classifier} {attempt : Nat} {generator after : Source}
    {result : Attempt Value Error} {delay : Duration}
    (backsOff : next policy classifier attempt generator result = .backOff delay after) :
    attempt < policy.budget :=
  (next_eq_backOff_iff.mp backsOff).2.1

/-- Run the loop from the attempt of the given number on, at the given time. -/
def runFrom [Retryable Error] (policy : Policy) (classifier : Classifier)
    (script : Nat → Nat × Attempt Value Error)
    (attempt now : Nat) (generator : Source) : Run Value Error Source :=
  let finish := now + (script attempt).1
  let stay : Stay := ⟨attempt, now, finish⟩
  match decision : next policy classifier attempt generator (script attempt).2 with
  | .settle ending => ⟨[stay], [], ending, generator⟩
  | .backOff delay generator =>
    have := lt_budget_of_next_eq_backOff decision
    let rest :=
      runFrom policy classifier script (attempt + 1) (finish + delay.timerMilliseconds) generator
    ⟨stay :: rest.stays, delay :: rest.delays, rest.ending, rest.generator⟩
termination_by policy.budget - attempt

section Equations

variable [Retryable Error] {policy : Policy} {classifier : Classifier}
  {script : Nat → Nat × Attempt Value Error} {attempt : Nat} {generator following : Source}
  {ending : Ending Value Error} {delay : Duration}

/-- A loop that settles makes one attempt and draws nothing. -/
theorem runFrom_of_settle
    (now : Nat)
    (decides : next policy classifier attempt generator (script attempt).2 = .settle ending) :
    runFrom policy classifier script attempt now generator =
      ⟨[⟨attempt, now, now + (script attempt).1⟩], [], ending, generator⟩ := by
  rw [runFrom]
  split <;> rename_i decision <;> rw [decides] at decision <;> cases decision
  rfl

/-- A loop that backs off goes on with the next attempt when the delay is over. -/
theorem runFrom_of_backOff
    (now : Nat)
    (decides : next policy classifier attempt generator (script attempt).2 =
      .backOff delay following) :
    runFrom policy classifier script attempt now generator =
      let rest := runFrom policy classifier script (attempt + 1)
        (now + (script attempt).1 + delay.timerMilliseconds) following
      ⟨⟨attempt, now, now + (script attempt).1⟩ :: rest.stays, delay :: rest.delays,
        rest.ending, rest.generator⟩ := by
  rw [runFrom]
  split <;> rename_i decision <;> rw [decides] at decision <;> cases decision
  rfl

end Equations

/-- Run the loop from the first attempt at time zero. -/
def run [Retryable Error] (policy : Policy) (classifier : Classifier)
    (script : Nat → Nat × Attempt Value Error) (generator : Source) :
    Run Value Error Source :=
  runFrom policy classifier script 1 0 generator

end Retry
end TenantLoad
