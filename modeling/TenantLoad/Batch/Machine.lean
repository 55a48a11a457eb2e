import TenantLoad.Batch.Collection

/-!
# Batches as transition systems

A dispatcher starts the items of a batch in order, each in a slot of its own;
an item keeps its slot until its retry loop has ended and its ending has been
announced and counted; then the endings are gathered.  Dispatcher and items
share the slots, the halt of a failure, the count of endings and the shutdown
signal.  An act reads or writes one of these once, so the sequences of acts
are the schedules of a batch on any number of threads.  `State.act` is the
effect of one act, `none` where the act is not enabled.
-/

namespace TenantLoad
namespace Batch

/-- How a batch is run. -/
structure Settings where
  /-- The number of slots asked for; none asked for still gives one. -/
  concurrency : Nat
  mode : Mode
  policy : Retry.Policy
  classifier : Retry.Classifier
  /-- Whether the dispatcher has been given the shutdown signal. -/
  heedsShutdown : Bool

/-- The number of slots. -/
def Settings.slots (settings : Settings) : Nat := max 1 settings.concurrency

/-- The most slots that there can be. -/
def slotLimit : Nat := 0x1FFFFFFFFFFFFFFF

/-- Whether there can be as many slots as a batch asks for. -/
def Settings.canBegin (settings : Settings) : Bool := decide (settings.slots ≤ slotLimit)

/-- Where an item stands. -/
inductive Cell (Value Error : Type) where
  /-- Not dispatched; the generator is its own. -/
  | waiting (generator : Random.Generator)
  /-- In a slot, before its first attempt. -/
  | dispatched (generator : Random.Generator)
  /-- The attempt of the given number is under way. -/
  | attempting (attempt : Nat) (generator : Random.Generator)
  /-- Waiting out a delay before the attempt of the given number. -/
  | resting (attempt : Nat) (delay : Duration) (generator : Random.Generator)
  /-- The retry loop has ended and nobody knows. -/
  | concluded (ending : Retry.Ending Value Error)
  /-- A failure that ends dispatch has raised the halt. -/
  | announced (ending : Retry.Ending Value Error)
  /-- Counted as the given one of all items in order of ending, and still in
  its slot. -/
  | ranked (order : Nat) (ending : Retry.Ending Value Error)
  /-- Ended, as the given one of all items, and out of its slot. -/
  | settled (order : Nat) (ending : Retry.Ending Value Error)

namespace Cell

/-- Whether the item holds a slot. -/
def holdsSlot : Cell Value Error → Bool
  | .waiting _ | .settled .. => false
  | _ => true

/-- Where the item stands after its attempt of the given number. -/
def afterAttempt [Retry.Retryable Error] (settings : Settings) (attempt : Nat)
    (generator : Random.Generator) (result : Retry.Attempt Value Error) : Cell Value Error :=
  match Retry.next settings.policy settings.classifier attempt generator result with
  | .settle ending => .concluded ending
  | .backOff delay generator => .resting (attempt + 1) delay generator

end Cell

/-- Why dispatch ended before the last item. -/
inductive Stop where
  | failure
  | shutdown
  deriving Repr, DecidableEq

/-- Where the dispatcher stands. -/
inductive Dispatcher where
  /-- Before it looks at the shutdown signal. -/
  | idle
  /-- It has not seen the signal raised and wants a slot. -/
  | seeking
  /-- It has a slot in hand for the next item. -/
  | granted
  /-- It has a slot in hand and has not seen the halt raised. -/
  | cleared
  | stopped (reason : Stop)
  deriving Repr, DecidableEq

/-- Whether the dispatcher holds a slot. -/
def Dispatcher.holdsSlot : Dispatcher → Bool
  | .granted | .cleared => true
  | _ => false

/-- The state of a batch. -/
structure State (Value Error : Type) where
  cells : Array (Cell Value Error)
  dispatcher : Dispatcher
  /-- The number of items dispatched, which is the next item's index. -/
  dispatched : Nat
  /-- The number of free slots. -/
  free : Nat
  /-- Whether a failure has asked for dispatch to end. -/
  halted : Bool
  /-- The number of items that have been counted as ended. -/
  settledCount : Nat
  collection : Collection Value Error

/-- What can happen in a batch. -/
inductive Act (Value Error : Type) where
  /-- The dispatcher looks at the shutdown signal. -/
  | look
  /-- The dispatcher takes a slot for the next item. -/
  | take
  /-- The dispatcher looks at the halt. -/
  | check
  /-- The dispatcher starts the next item in the slot in its hand. -/
  | launch
  /-- A dispatched item begins its first attempt. -/
  | start (index : Nat)
  /-- The attempt of an item ends. -/
  | finish (index : Nat) (result : Retry.Attempt Value Error)
  /-- The delay of an item is over and its next attempt begins. -/
  | resume (index : Nat)
  /-- An item whose loop has ended raises the halt if it failed and that ends
  dispatch. -/
  | announce (index : Nat)
  /-- An item takes its place in the order of ending. -/
  | rank (index : Nat)
  /-- An item gives its slot back. -/
  | release (index : Nat)
  /-- The outcome of an item arrives at the collector. -/
  | gather (index : Nat)
  deriving Repr, DecidableEq

/-- One generator per item, each seeded by one long word of the caller's. -/
def itemGenerators {Source : Type} [Random.Words Source] :
    Nat → StateM Source (List Random.Generator)
  | 0 => pure []
  | count + 1 => do
    let seed ← Random.Words.nextLong
    let rest ← itemGenerators count
    pure (Random.Generator.ofSeed seed :: rest)

/-- What is left of the caller's source when a batch of so many items has begun
or crashed: the words that seed the items are drawn once the slots have been
made. -/
def callerAfter {Source : Type} [Random.Words Source] (settings : Settings) (count : Nat)
    (caller : Source) : Source :=
  if settings.canBegin then (itemGenerators count caller).2 else caller

namespace State

/-- The state before anything has happened. -/
def initial (settings : Settings) (generators : List Random.Generator) : State Value Error :=
  { cells := (generators.map Cell.waiting).toArray
    dispatcher := .idle
    dispatched := 0
    free := settings.slots
    halted := false
    settledCount := 0
    collection := .empty generators.length }

/-- The state in which a batch begins.  A batch that asks for more slots than
there can be crashes before anything happens: it has no runs. -/
def begin? (settings : Settings) (generators : List Random.Generator) :
    Option (State Value Error) :=
  if settings.canBegin then some (.initial settings generators) else none

/-- Why dispatch has ended before the last item. -/
def stop (state : State Value Error) : Option Stop :=
  match state.dispatcher with
  | .stopped reason => some reason
  | _ => none

/-- Whether there is nothing left to dispatch. -/
def dispatchOver (state : State Value Error) : Bool :=
  state.stop.isSome || decide (state.cells.size ≤ state.dispatched)

/-- The number of slots that are held, by items or by the dispatcher. -/
def heldSlots (state : State Value Error) : Nat :=
  state.cells.countP Cell.holdsSlot + state.dispatcher.holdsSlot.toNat

/-- Whether the batch is complete: nothing is left to dispatch and the outcome
of every dispatched item has been gathered. -/
def isComplete (state : State Value Error) : Bool :=
  state.dispatchOver &&
    (List.range state.dispatched).all fun index => !state.collection.lacks index

/-- The report of a batch that is complete. -/
def report (settings : Settings) (state : State Value Error) : Report Value Error :=
  { mode := settings.mode
    outcomes := state.collection.outcomes.toList
    firstFailure := state.collection.firstFailure.map Prod.fst
    cancelled := state.stop == some .shutdown }

/-- The state after an item has moved. -/
def setCell (state : State Value Error) (index : Nat) (cell : Cell Value Error) :
    State Value Error :=
  { state with cells := state.cells.setIfInBounds index cell }

/-- The dispatcher looks at the shutdown signal before every item, and again
while it wants a slot as soon as the signal is raised. -/
def look (settings : Settings) (raised : Bool) (state : State Value Error) :
    Option (State Value Error) :=
  let refused := settings.heedsShutdown && raised
  match state.dispatcher with
  | .idle =>
    if state.dispatched < state.cells.size then
      some { state with dispatcher := if refused then .stopped .shutdown else .seeking }
    else none
  | .seeking => if refused then some { state with dispatcher := .stopped .shutdown } else none
  | _ => none

/-- The dispatcher takes a free slot. -/
def take (state : State Value Error) : Option (State Value Error) :=
  match state.dispatcher with
  | .seeking =>
    if 0 < state.free then
      some { state with dispatcher := .granted, free := state.free - 1 }
    else none
  | _ => none

/-- The dispatcher looks at the halt, with a slot in hand that it gives back
if the halt is raised. -/
def check (state : State Value Error) : Option (State Value Error) :=
  match state.dispatcher with
  | .granted =>
    if state.halted then
      some { state with dispatcher := .stopped .failure, free := state.free + 1 }
    else
      some { state with dispatcher := .cleared }
  | _ => none

/-- The dispatcher starts the next item. -/
def launch (state : State Value Error) : Option (State Value Error) :=
  match state.dispatcher, state.cells[state.dispatched]? with
  | .cleared, some (.waiting generator) =>
    some { state.setCell state.dispatched (.dispatched generator) with
      dispatcher := .idle
      dispatched := state.dispatched + 1 }
  | _, _ => none

/-- An item begins its first attempt. -/
def start (state : State Value Error) (index : Nat) : Option (State Value Error) :=
  match state.cells[index]? with
  | some (.dispatched generator) => some (state.setCell index (.attempting 1 generator))
  | _ => none

/-- The attempt of an item ends. -/
def endAttempt [Retry.Retryable Error] (settings : Settings) (state : State Value Error)
    (index : Nat) (result : Retry.Attempt Value Error) : Option (State Value Error) :=
  match state.cells[index]? with
  | some (.attempting attempt generator) =>
    some (state.setCell index (.afterAttempt settings attempt generator result))
  | _ => none

/-- An item begins its next attempt. -/
def resume (state : State Value Error) (index : Nat) : Option (State Value Error) :=
  match state.cells[index]? with
  | some (.resting attempt _ generator) =>
    some (state.setCell index (.attempting attempt generator))
  | _ => none

/-- An item whose loop has ended raises the halt if that ends dispatch. -/
def announce (settings : Settings) (state : State Value Error) (index : Nat) :
    Option (State Value Error) :=
  match state.cells[index]? with
  | some (.concluded ending) =>
    some { state.setCell index (.announced ending) with
      halted :=
        state.halted || ((Outcome.ofEnding ending).isFailure && settings.mode == .failFast) }
  | _ => none

/-- An item takes its place in the order of ending. -/
def rank (state : State Value Error) (index : Nat) : Option (State Value Error) :=
  match state.cells[index]? with
  | some (.announced ending) =>
    some { state.setCell index (.ranked state.settledCount ending) with
      settledCount := state.settledCount + 1 }
  | _ => none

/-- An item gives its slot back. -/
def release (state : State Value Error) (index : Nat) : Option (State Value Error) :=
  match state.cells[index]? with
  | some (.ranked order ending) =>
    some { state.setCell index (.settled order ending) with free := state.free + 1 }
  | _ => none

/-- The outcome of an item is gathered once dispatch is over. -/
def gather (state : State Value Error) (index : Nat) : Option (State Value Error) :=
  match state.cells[index]? with
  | some (.settled order ending) =>
    if state.dispatchOver && state.collection.lacks index then
      some { state with collection := state.collection.add index order (.ofEnding ending) }
    else none
  | _ => none

/-- The state after an act; `raised` tells whether the shutdown signal is
raised. -/
def act [Retry.Retryable Error] (settings : Settings) (raised : Bool)
    (state : State Value Error) : Act Value Error → Option (State Value Error)
  | .look => state.look settings raised
  | .take => state.take
  | .check => state.check
  | .launch => state.launch
  | .start index => state.start index
  | .finish index result => state.endAttempt settings index result
  | .resume index => state.resume index
  | .announce index => state.announce settings index
  | .rank index => state.rank index
  | .release index => state.release index
  | .gather index => state.gather index

end State

/-- What happens around a batch: an act of the batch, or the shutdown signal
is raised. -/
inductive Happening (Value Error : Type) where
  | act (act : Act Value Error)
  | raise
  deriving Repr, DecidableEq

/-- A batch beside the shutdown signal. -/
structure World (Value Error : Type) where
  raised : Bool
  state : State Value Error

namespace World

/-- The world after something has happened. -/
def step [Retry.Retryable Error] (settings : Settings) (world : World Value Error) :
    Happening Value Error → Option (World Value Error)
  | .raise => some { world with raised := true }
  | .act act => (world.state.act settings world.raised act).map fun state => { world with state }

/-- The world after a sequence of happenings. -/
def run [Retry.Retryable Error] (settings : Settings) (world : World Value Error)
    (happenings : List (Happening Value Error)) : Option (World Value Error) :=
  happenings.foldlM (step settings) world

end World
end Batch
end TenantLoad
