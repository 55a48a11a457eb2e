import TenantLoad.Batch.Turn
import TenantLoad.Timeline

/-!
# Batches on a timeline

One schedule of a batch: the dispatcher fills every free slot before an item
it started runs, an attempt and a delay take their time on the clock, and at
one instant jobs run in the order in which they became ready.  The script
says how long every attempt takes, how it ends and whether it raises the
shutdown signal.
-/

namespace TenantLoad
namespace Batch

/-- What one attempt of an item does. -/
structure ScriptedAttempt (Value Error : Type) where
  /-- Whether the attempt begins by raising the shutdown signal. -/
  raisesBefore : Bool
  milliseconds : Nat
  /-- Whether the attempt ends by raising the shutdown signal. -/
  raisesAfter : Bool
  result : Retry.Attempt Value Error

/-- What can run: the dispatcher, or an item. -/
inductive Job where
  | dispatcher
  | item (index : Nat)
  deriving Repr, DecidableEq

/-- One attempt in the log of a run. -/
structure LogEntry where
  item : Nat
  attempt : Nat
  start : Nat
  finish : Nat
  deriving Repr, DecidableEq

/-- A batch under way. -/
structure TimedRun (Value Error : Type) where
  timeline : Timeline Job
  world : World Value Error
  /-- Whether the dispatcher waits for a slot. -/
  dispatcherWaits : Bool
  /-- The finished attempts, latest first. -/
  log : List LogEntry

namespace TimedRun

/-- Make the dispatcher ready if it waits. -/
def wakeDispatcher (run : TimedRun Value Error) : TimedRun Value Error :=
  if run.dispatcherWaits then
    { run with timeline := run.timeline.wake .dispatcher, dispatcherWaits := false }
  else
    run

/-- Raise the shutdown signal, which wakes a dispatcher that heeds it. -/
def raise (settings : Settings) (run : TimedRun Value Error) : TimedRun Value Error :=
  let run := { run with world := { run.world with raised := true } }
  if settings.heedsShutdown then run.wakeDispatcher else run

/-- The dispatcher's turn: it starts one item and goes on, waits for a slot or
ends. -/
def dispatcherTurn (settings : Settings) (run : TimedRun Value Error) : TimedRun Value Error :=
  if run.world.state.dispatchOver then run
  else
    match run.world.state.dispatch settings run.world.raised with
    | none => { run with dispatcherWaits := true }
    | some state =>
      let run := { run with world := { run.world with state } }
      if state.stop.isSome then run
      else
        { run with
          timeline := (run.timeline.wake (.item (state.dispatched - 1))).goOn .dispatcher }

/-- Begin the attempt of an item: the item sleeps until the attempt ends. -/
def beginAttempt (settings : Settings)
    (script : Nat → Nat → ScriptedAttempt Value Error)
    (run : TimedRun Value Error) (index attempt : Nat) (state : State Value Error) :
    TimedRun Value Error :=
  let scripted := script index attempt
  let run := { run with world := { run.world with state } }
  let run := if scripted.raisesBefore then run.raise settings else run
  { run with timeline := run.timeline.sleep (.item index) scripted.milliseconds }

/-- End the attempt of an item: the item rests, or it has ended and its slot
is free. -/
def endAttempt [Retry.Retryable Error] (settings : Settings)
    (script : Nat → Nat → ScriptedAttempt Value Error)
    (run : TimedRun Value Error) (index attempt : Nat) : TimedRun Value Error :=
  let scripted := script index attempt
  let run := if scripted.raisesAfter then run.raise settings else run
  let now := run.timeline.now
  let entry : LogEntry := ⟨index, attempt, now - scripted.milliseconds, now⟩
  let run := { run with log := entry :: run.log }
  match run.world.state.finish settings index scripted.result with
  | none => run
  | some state =>
    let run := { run with world := { run.world with state } }
    match state.cells[index]? with
    | some (.resting _ delay _) =>
      { run with timeline := run.timeline.sleep (.item index) delay.timerMilliseconds }
    | _ => run.wakeDispatcher

/-- An item's turn. -/
def itemTurn [Retry.Retryable Error] (settings : Settings)
    (script : Nat → Nat → ScriptedAttempt Value Error)
    (run : TimedRun Value Error) (index : Nat) : TimedRun Value Error :=
  let state := run.world.state
  match state.cells[index]? with
  | some (.dispatched _) =>
    match state.step settings run.world.raised (.start index) with
    | some state => run.beginAttempt settings script index 1 state
    | none => run
  | some (.resting attempt _ _) =>
    match state.step settings run.world.raised (.resume index) with
    | some state => run.beginAttempt settings script index attempt state
    | none => run
  | some (.attempting attempt _) => run.endAttempt settings script index attempt
  | _ => run

/-- Let ready jobs run until none is left, or for so many turns. -/
def proceed [Retry.Retryable Error] (settings : Settings)
    (script : Nat → Nat → ScriptedAttempt Value Error) :
    Nat → TimedRun Value Error → TimedRun Value Error
  | 0, run => run
  | turns + 1, run =>
    match run.timeline.next? with
    | none => run
    | some (job, timeline) =>
      let run := { run with timeline }
      match job with
      | .dispatcher => proceed settings script turns (run.dispatcherTurn settings)
      | .item index => proceed settings script turns (run.itemTurn settings script index)

/-- The turns that a batch can take: two for every attempt, and one of the
dispatcher for every item that starts or ends, for the signal and at first. -/
def turnLimit (settings : Settings) (items : Nat) : Nat :=
  items * (2 * settings.policy.budget + 4) + 4

/-- Let the outcomes of the items be gathered. -/
def gatherAll (run : TimedRun Value Error) : TimedRun Value Error :=
  { run with world := { run.world with state := run.world.state.gatherAll } }

/-- Run a batch with one item for each generator to its end. -/
def ofScript [Retry.Retryable Error] (settings : Settings) (raised : Bool)
    (script : Nat → Nat → ScriptedAttempt Value Error)
    (generators : List Random.Generator) : TimedRun Value Error :=
  (proceed settings script (turnLimit settings generators.length)
    { timeline := .start [.dispatcher]
      world := ⟨raised, .initial settings generators⟩
      dispatcherWaits := false
      log := [] }).gatherAll

/-- Run a batch to its end unless it crashes before it begins. -/
def ofScript? [Retry.Retryable Error] (settings : Settings) (raised : Bool)
    (script : Nat → Nat → ScriptedAttempt Value Error)
    (generators : List Random.Generator) : Option (TimedRun Value Error) :=
  if settings.canBegin then some (ofScript settings raised script generators) else none

end TimedRun
end Batch
end TenantLoad
