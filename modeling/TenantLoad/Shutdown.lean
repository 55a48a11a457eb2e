/-!
# The shutdown signal

A signal is raised once and stays raised.  Handles that were cloned from one
another share a signal.  A watcher of interrupts raises the signal at the
first interrupt and gives up at an interrupt that finds it raised already, or
when the source of interrupts fails.  A watcher takes an interrupt as one event;
in a `Scene` it looks at the signal and raises it in steps of their own, and
anything may be done with other handles between them.
-/

namespace TenantLoad
namespace Shutdown

/-- The exit status of a run that is forced to stop. -/
def forcedExitStatus : Nat := 130

/-- Why a watcher stopped. -/
inductive Outcome where
  /-- An interrupt found the signal raised. -/
  | forced
  /-- The source of interrupts failed. -/
  | unavailable
  deriving Repr, DecidableEq

/-- What a watcher can notice. -/
inductive Event where
  /-- An interrupt arrived. -/
  | interrupt
  /-- The source of interrupts failed. -/
  | failure
  /-- Something else raised the signal. -/
  | raise
  deriving Repr, DecidableEq

/-- A watcher: the signal, the interrupts taken, and the outcome once it has
stopped. -/
structure Watcher where
  raised : Bool
  taken : Nat := 0
  outcome : Option Outcome := none
  deriving Repr, DecidableEq

namespace Watcher

/-- The watcher after an event; one that has stopped only sees the signal
change. -/
def step (watcher : Watcher) : Event → Watcher
  | .raise => { watcher with raised := true }
  | event =>
    match watcher.outcome with
    | some _ => watcher
    | none =>
      match event with
      | .failure => { watcher with taken := watcher.taken + 1, outcome := some .unavailable }
      | _ =>
        if watcher.raised then
          { watcher with taken := watcher.taken + 1, outcome := some .forced }
        else
          { watcher with raised := true, taken := watcher.taken + 1 }

/-- The watcher after a sequence of events. -/
def run (watcher : Watcher) (events : List Event) : Watcher := events.foldl step watcher

end Watcher

/-- Handles of signals. -/
structure Handles where
  /-- Whether each signal is raised. -/
  signals : Array Bool
  /-- The signal of each handle. -/
  handles : Array Nat
  deriving Repr, DecidableEq

namespace Handles

/-- One handle of one signal that is not raised. -/
def single : Handles := ⟨#[false], #[0]⟩

/-- Whether the signal of a handle is raised. -/
def isRaised (handles : Handles) (handle : Nat) : Bool :=
  (handles.handles[handle]?.bind fun signal => handles.signals[signal]?).getD false

/-- Set whether the signal of a handle is raised. -/
def setRaised (handles : Handles) (handle : Nat) (raised : Bool) : Handles :=
  match handles.handles[handle]? with
  | some signal => { handles with signals := handles.signals.setIfInBounds signal raised }
  | none => handles

/-- Raise the signal of a handle. -/
def raise (handles : Handles) (handle : Nat) : Handles := handles.setRaised handle true

/-- Add another handle of the signal of a handle. -/
def clone (handles : Handles) (handle : Nat) : Handles :=
  { handles with handles := handles.handles.push (handles.handles[handle]?.getD 0) }

/-- Add a handle of a signal of its own. -/
def add (handles : Handles) : Handles :=
  ⟨handles.signals.push false, handles.handles.push handles.signals.size⟩

/-- Watch interrupts on the signal of a handle until the watcher stops or
nothing more comes. -/
def watch (handles : Handles) (handle : Nat) (events : List Event) : Watcher × Handles :=
  let watcher := Watcher.run { raised := handles.isRaised handle } events
  (watcher, handles.setRaised handle watcher.raised)

/-- Whether the signal of each handle is raised. -/
def states (handles : Handles) : List Bool :=
  (List.range handles.handles.size).map handles.isRaised

end Handles

/-- Where a watcher is in its loop. -/
inductive Place where
  /-- It waits for its source. -/
  | listening
  /-- An interrupt has arrived, and it looks at the signal next. -/
  | interrupted
  /-- It has found the signal not raised, and raises it next. -/
  | warned
  | stopped (outcome : Outcome)
  deriving Repr, DecidableEq

/-- A step of a watcher or of anything else that has a handle. -/
inductive Act where
  /-- The watcher's source gives an interrupt. -/
  | interrupt
  /-- The watcher's source fails. -/
  | failure
  /-- The watcher looks at the signal. -/
  | look
  /-- The watcher raises the signal. -/
  | heed
  /-- Something else raises the signal of a handle. -/
  | raise (handle : Nat)
  | clone (handle : Nat)
  | add
  deriving Repr, DecidableEq

/-- A watcher among the handles of signals. -/
structure Scene where
  handles : Handles
  /-- The handle of the watcher. -/
  own : Nat
  place : Place
  deriving Repr, DecidableEq

namespace Scene

/-- Whether the signal of the watcher is raised. -/
def isRaised (scene : Scene) : Bool := scene.handles.isRaised scene.own

/-- The scene after a step, if the step can be taken. -/
def act (scene : Scene) : Act → Option Scene
  | .interrupt =>
    if scene.place = .listening then some { scene with place := .interrupted } else none
  | .failure =>
    if scene.place = .listening then some { scene with place := .stopped .unavailable } else none
  | .look =>
    if scene.place = .interrupted then
      some { scene with place := if scene.isRaised then .stopped .forced else .warned }
    else
      none
  | .heed =>
    if scene.place = .warned then
      some { scene with handles := scene.handles.raise scene.own, place := .listening }
    else
      none
  | .raise handle =>
    if handle < scene.handles.handles.size then
      some { scene with handles := scene.handles.raise handle }
    else
      none
  | .clone handle =>
    if handle < scene.handles.handles.size then
      some { scene with handles := scene.handles.clone handle }
    else
      none
  | .add => some { scene with handles := scene.handles.add }

/-- The scene after steps, if all of them can be taken. -/
def run (scene : Scene) (acts : List Act) : Option Scene := acts.foldlM act scene

end Scene
end Shutdown
end TenantLoad
