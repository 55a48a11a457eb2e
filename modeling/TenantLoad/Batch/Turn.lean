import TenantLoad.Batch.Machine

/-!
# Batches on one thread

Where nothing interrupts the dispatcher or an item, it goes on until it has
to wait.  An event is such a turn: the dispatcher looks at the signal, takes a
slot, looks at the halt and starts an item at once, and an item whose loop has
ended announces its ending, is counted and gives its slot back at once.
-/

namespace TenantLoad
namespace Batch

/-- What can happen in a batch without interruption. -/
inductive Event (Value Error : Type) where
  /-- The dispatcher tries to start the next item. -/
  | dispatch
  /-- A dispatched item begins its first attempt. -/
  | start (index : Nat)
  /-- The attempt of an item ends. -/
  | finish (index : Nat) (result : Retry.Attempt Value Error)
  /-- The delay of an item is over and its next attempt begins. -/
  | resume (index : Nat)
  deriving Repr, DecidableEq

/-- The act that a turn begins with. -/
def Event.opening : Event Value Error → Act Value Error
  | .dispatch => .look
  | .start index => .start index
  | .finish index result => .finish index result
  | .resume index => .resume index

namespace State

/-- Whether the batch has ended: nothing is left to dispatch and every
dispatched item has ended. -/
def isOver (state : State Value Error) : Bool :=
  state.dispatchOver && decide (state.settledCount = state.dispatched)

/-- The dispatcher starts the next item or ends dispatch; without a free slot
it cannot move. -/
def dispatch (settings : Settings) (raised : Bool) (state : State Value Error) :
    Option (State Value Error) := do
  let state ← state.look settings raised
  if state.stop.isSome then return state
  let state ← state.take
  let state ← state.check
  if state.stop.isSome then return state
  state.launch

/-- Whether the dispatcher can move: with something left to dispatch, it meets
the shutdown signal or a free slot. -/
def canDispatch (settings : Settings) (raised : Bool) (state : State Value Error) : Bool :=
  !state.dispatchOver && ((settings.heedsShutdown && raised) || decide (0 < state.free))

/-- An item whose loop has ended makes its ending known and gives its slot
back. -/
def settle (settings : Settings) (state : State Value Error) (index : Nat) :
    Option (State Value Error) := do
  let state ← state.announce settings index
  let state ← state.rank index
  state.release index

/-- The attempt of an item ends, and so does the item unless it backs off. -/
def finish [Retry.Retryable Error] (settings : Settings) (state : State Value Error)
    (index : Nat) (result : Retry.Attempt Value Error) : Option (State Value Error) := do
  let state ← state.endAttempt settings index result
  match state.cells[index]? with
  | some (.concluded _) => state.settle settings index
  | _ => return state

/-- The state after an event; `raised` tells whether the shutdown signal is
raised. -/
def step [Retry.Retryable Error] (settings : Settings) (raised : Bool)
    (state : State Value Error) : Event Value Error → Option (State Value Error)
  | .dispatch => state.dispatch settings raised
  | .start index => state.start index
  | .finish index result => state.finish settings index result
  | .resume index => state.resume index

/-- The state after everything that can be gathered has been gathered. -/
def gatherAll (state : State Value Error) : State Value Error :=
  (List.range state.cells.size).foldl (fun state index => (state.gather index).getD state) state

end State

/-- What happens around a batch on one thread: an event of the batch, or the
shutdown signal is raised. -/
inductive Turn (Value Error : Type) where
  | event (event : Event Value Error)
  | raise
  deriving Repr, DecidableEq

namespace World

/-- The world after a turn. -/
def turn [Retry.Retryable Error] (settings : Settings) (world : World Value Error) :
    Turn Value Error → Option (World Value Error)
  | .raise => some { world with raised := true }
  | .event event =>
    (world.state.step settings world.raised event).map fun state => { world with state }

/-- The world after a sequence of turns. -/
def turns [Retry.Retryable Error] (settings : Settings) (world : World Value Error)
    (turns : List (Turn Value Error)) : Option (World Value Error) :=
  turns.foldlM (turn settings) world

end World
end Batch
end TenantLoad
