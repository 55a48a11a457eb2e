import Mathlib.Logic.Relation
import TenantLoad.Proofs.Batch.Rest
import TenantLoad.Proofs.Timeline

/-!
# Schedules of a batch on one thread

A schedule picks any of the jobs that are ready, so the dispatcher and the
items take their turns in any order, and somebody outside the batch may raise
the shutdown signal at any moment.  The clock goes on only when no job is
ready.  The batch on a timeline is one schedule of many.

Every schedule attends to the dispatcher and to all items in slots: what each
of them waits for is to come, and a dispatcher without a turn to come could
not move in it.
-/

namespace TenantLoad
namespace Batch
namespace TimedRun

variable {Value Error : Type}

/-- A batch that has not begun, with the dispatcher's turn to come. -/
def beginning (raised : Bool) (state : State Value Error) : TimedRun Value Error :=
  { timeline := .start [.dispatcher]
    world := ⟨raised, state⟩
    dispatcherWaits := false
    log := [] }

/-- A batch with other jobs ready. -/
def withReady (run : TimedRun Value Error) (ready : List Job) : TimedRun Value Error :=
  { run with timeline := { run.timeline with ready } }

/-- A batch with the clock at another time. -/
def withNow (run : TimedRun Value Error) (now : Nat) : TimedRun Value Error :=
  { run with timeline := { run.timeline with now } }

/-- A batch that has waited for the next wake-up. -/
def awaken (run : TimedRun Value Error) : TimedRun Value Error :=
  { run with timeline := run.timeline.awaken }

/-- A batch in another state. -/
def withState (run : TimedRun Value Error) (state : State Value Error) : TimedRun Value Error :=
  { run with world := { run.world with state } }

/-- A batch in which an item has fallen asleep. -/
def fallAsleep (run : TimedRun Value Error) (index milliseconds : Nat) : TimedRun Value Error :=
  { run with timeline := run.timeline.sleep (.item index) milliseconds }

/-- A batch with the given log in which an attempt may have raised the signal. -/
def signalled (settings : Settings) (raises : Bool) (log : List LogEntry)
    (run : TimedRun Value Error) : TimedRun Value Error :=
  { (if raises then run.raise settings else run) with log }

section Schedules

variable [Retry.Retryable Error] (settings : Settings)
  (script : Nat → Nat → ScriptedAttempt Value Error)

/-- Run a job. -/
def runJob (run : TimedRun Value Error) : Job → TimedRun Value Error
  | .dispatcher => run.dispatcherTurn settings
  | .item index => run.itemTurn settings script index

/-- What some schedule does next while the clock stands still. -/
inductive Proceeds : TimedRun Value Error → TimedRun Value Error → Prop where
  /-- Any ready job runs. -/
  | work (run : TimedRun Value Error) (before after : List Job) (job : Job)
      (ready : run.timeline.ready = before ++ job :: after) :
      Proceeds run (runJob settings script (run.withReady (before ++ after)) job)
  /-- Somebody else raises the signal. -/
  | raise (run : TimedRun Value Error) (unraised : run.world.raised = false) :
      Proceeds run (run.raise settings)

/-- What some schedule does next. -/
inductive Advances : TimedRun Value Error → TimedRun Value Error → Prop where
  | proceed {run next : TimedRun Value Error} (proceeds : Proceeds settings script run next) :
      Advances run next
  /-- Nothing is ready until the next wake-up. -/
  | wait (run : TimedRun Value Error) (idle : run.timeline.ready = [])
      (asleep : run.timeline.sleeping ≠ []) :
      Advances run run.awaken
  /-- Nothing is ready until somebody else raises the signal before the next
  wake-up. -/
  | interrupt (run : TimedRun Value Error) (time : Nat) (idle : run.timeline.ready = [])
      (unraised : run.world.raised = false) (later : run.timeline.now ≤ time)
      (before : ∀ sleeper ∈ run.timeline.sleeping, time < sleeper.1) :
      Advances run ((run.withNow time).raise settings)

end Schedules

/-! ## What a job comes to -/

variable {settings : Settings} {script : Nat → Nat → ScriptedAttempt Value Error}
  {run other next : TimedRun Value Error} {state : State Value Error} {index turns : Nat}
  {job : Job}

@[simp] theorem signalled_state
    (raises : Bool)
    (log : List LogEntry)
    (run : TimedRun Value Error) :
    (run.signalled settings raises log).world.state = run.world.state := by
  cases raises with
  | true =>
      change (run.raise settings).world.state = run.world.state
      rw [raise_world]
  | false => rfl

/-- To the signal it is all one where the items are. -/
theorem raise_withState
    (settings : Settings)
    (run : TimedRun Value Error)
    (state : State Value Error) :
    (run.withState state).raise settings = (run.raise settings).withState state := by
  unfold raise wakeDispatcher
  cases settings.heedsShutdown with
  | true => cases waits : run.dispatcherWaits <;> simp [withState, waits]
  | false => rfl

/-- An attempt that begins by raising the signal could have raised it just
before. -/
theorem beginAttempt_eq
    (settings : Settings)
    (script : Nat → Nat → ScriptedAttempt Value Error)
    (run : TimedRun Value Error)
    (index attempt : Nat)
    (state : State Value Error) :
    ∃ log, run.beginAttempt settings script index attempt state =
      ((run.signalled settings (script index attempt).raisesBefore log).withState
        state).fallAsleep index (script index attempt).milliseconds := by
  unfold beginAttempt signalled
  dsimp only
  cases (script index attempt).raisesBefore with
  | true =>
      refine ⟨(run.raise settings).log, ?_⟩
      have moved := raise_withState settings run state
      simp only [withState] at moved
      simp only [if_true, moved]
      rfl
  | false => exact ⟨run.log, rfl⟩

/-- What a turn comes to.  The dispatcher has nothing left to dispatch, waits,
ends dispatch or starts an item; an item has nothing to do, sleeps or settles. -/
inductive Works [Retry.Retryable Error] (settings : Settings) (run : TimedRun Value Error) :
    Job → TimedRun Value Error → Prop
  | idle (finished : run.world.state.dispatchOver = true) : Works settings run .dispatcher run
  | park
      (going : run.world.state.dispatchOver = false)
      (cannot : run.world.state.dispatch settings run.world.raised = none) :
      Works settings run .dispatcher { run with dispatcherWaits := true }
  | stop
      (state : State Value Error)
      (dispatches : run.world.state.step settings run.world.raised .dispatch = some state)
      (stopped : state.stop.isSome = true) :
      Works settings run .dispatcher (run.withState state)
  | launch
      (state : State Value Error)
      (dispatches : run.world.state.step settings run.world.raised .dispatch = some state)
      (going : state.stop = none) :
      Works settings run .dispatcher
        { run.withState state with
          timeline :=
            (run.timeline.wake (.item run.world.state.dispatched)).goOn .dispatcher }
  | nothing
      (index : Nat)
      (still : ∀ (cell : Cell Value Error) (event : Event Value Error),
        run.world.state.cells[index]? = some cell → ¬cell.Awaits index event) :
      Works settings run (.item index) run
  | sleep
      (index milliseconds : Nat)
      (raises : Bool)
      (log : List LogEntry)
      (before after : Cell Value Error)
      (event : Event Value Error)
      (found : run.world.state.cells[index]? = some before)
      (awaits : before.Awaits index event)
      (steps : ∀ raised, run.world.state.step settings raised event =
        some (run.world.state.setCell index after)) :
      Works settings run (.item index)
        (((run.signalled settings raises log).withState
          (run.world.state.setCell index after)).fallAsleep index milliseconds)
  | settle
      (index order : Nat)
      (raises : Bool)
      (log : List LogEntry)
      (before : Cell Value Error)
      (result : Retry.Attempt Value Error)
      (ending : Retry.Ending Value Error)
      (state : State Value Error)
      (found : run.world.state.cells[index]? = some before)
      (awaits : before.Awaits index (.finish index result))
      (steps : ∀ raised, run.world.state.step settings raised (.finish index result) = some state)
      (settled : state.cells[index]? = some (.settled order ending)) :
      Works settings run (.item index)
        ((run.signalled settings raises log).withState state).wakeDispatcher

variable [Retry.Retryable Error]

theorem works_dispatcherTurn
    (run : TimedRun Value Error) :
    Works settings run .dispatcher (run.dispatcherTurn settings) := by
  unfold dispatcherTurn
  split
  · rename_i finished
    exact .idle finished
  · rename_i going
    rw [Bool.not_eq_true] at going
    split
    · rename_i cannot
      exact .park going cannot
    · rename_i state dispatches
      split
      · rename_i stopped
        exact .stop state dispatches stopped
      · rename_i unstopped
        have goes : state.stop = none := by simpa using unstopped
        have launched : state.dispatched - 1 = run.world.state.dispatched := by
          cases Steps.of_dispatch dispatches with
          | refuse | halt => cases goes
          | launch => rfl
        rw [launched]
        exact .launch state dispatches goes

theorem works_beginAttempt
    {attempt : Nat}
    {generator : Random.Generator}
    {before : Cell Value Error}
    {event : Event Value Error}
    (found : run.world.state.cells[index]? = some before)
    (awaits : before.Awaits index event)
    (steps : ∀ raised, run.world.state.step settings raised event =
      some (run.world.state.setCell index (.attempting attempt generator))) :
    Works settings run (.item index)
      (run.beginAttempt settings script index attempt
        (run.world.state.setCell index (.attempting attempt generator))) := by
  obtain ⟨log, begins⟩ := beginAttempt_eq settings script run index attempt
    (run.world.state.setCell index (.attempting attempt generator))
  rw [begins]
  exact .sleep index _ _ log before _ event found awaits steps

/-- An item whose attempt has ended sleeps out its delay, or the dispatcher is
woken. -/
theorem endAttempt_of_finish
    {attempt : Nat}
    (finishes : run.world.state.finish settings index (script index attempt).result =
      some state) :
    ∃ log, run.endAttempt settings script index attempt =
      let ended := (run.signalled settings (script index attempt).raisesAfter log).withState state
      match state.cells[index]? with
      | some (.resting _ delay _) => ended.fallAsleep index delay.timerMilliseconds
      | _ => ended.wakeDispatcher := by
  obtain ⟨heard, isHeard⟩ :
      ∃ heard, (if (script index attempt).raisesAfter then run.raise settings else run) = heard :=
    ⟨_, rfl⟩
  have stays : heard.world.state = run.world.state := by
    rw [← isHeard]
    exact signalled_state (script index attempt).raisesAfter [] run
  refine ⟨⟨index, attempt, heard.timeline.now - (script index attempt).milliseconds,
    heard.timeline.now⟩ :: heard.log, ?_⟩
  simp only [endAttempt, signalled, isHeard, stays, finishes]
  cases state.cells[index]? with
  | none => rfl
  | some cell => cases cell <;> rfl

theorem works_endAttempt
    {attempt : Nat}
    {generator : Random.Generator}
    (found : run.world.state.cells[index]? = some (.attempting attempt generator)) :
    Works settings run (.item index) (run.endAttempt settings script index attempt) := by
  have awaits : (Cell.attempting attempt generator).Awaits index
      (.finish index (script index attempt).result) := .finish attempt generator _
  have possible : (run.world.state.finish settings index (script index attempt).result).isSome =
      true := State.isSome_finish found _
  obtain ⟨state, finishes⟩ := Option.isSome_iff_exists.mp possible
  obtain ⟨log, ends⟩ := endAttempt_of_finish finishes
  have steps : Steps settings run.world.raised run.world.state
      (.finish index (script index attempt).result) state := .of_finish finishes
  rw [ends]
  cases steps with
  | rest _ _ _ following delay _ present backsOff =>
      rw [State.getElem?_setCell_self _ present]
      exact .sleep index _ _ log _ _ _ found awaits fun _ => finishes
  | settle _ _ _ _ ending present settles =>
      have settled := State.getElem?_setCell_self
        (.settled run.world.state.settledCount ending) present
      dsimp only
      rw [settled]
      exact .settle index _ _ log _ _ ending _ found awaits (fun _ => finishes) settled

theorem works_itemTurn
    (run : TimedRun Value Error)
    (index : Nat) :
    Works settings run (.item index) (run.itemTurn settings script index) := by
  unfold itemTurn
  dsimp only
  split
  · rename_i generator found
    have steps : ∀ raised, run.world.state.step settings raised (.start index) =
        some (run.world.state.setCell index (.attempting 1 generator)) := by
      intro raised
      simp [State.step, State.start, found]
    rw [steps]
    exact works_beginAttempt found (.start generator) steps
  · rename_i attempt delay generator found
    have steps : ∀ raised, run.world.state.step settings raised (.resume index) =
        some (run.world.state.setCell index (.attempting attempt generator)) := by
      intro raised
      simp [State.step, State.resume, found]
    rw [steps]
    exact works_beginAttempt found (.resume attempt delay generator) steps
  · rename_i attempt generator found
    exact works_endAttempt found
  · rename_i undispatched unrested unattempted
    refine .nothing index ?_
    intro cell event found awaits
    cases awaits with
    | start generator => exact undispatched generator found
    | finish attempt generator result => exact unattempted attempt generator found
    | resume attempt delay generator => exact unrested attempt delay generator found

/-- Every job comes to one of the cases. -/
theorem works_runJob
    (settings : Settings)
    (script : Nat → Nat → ScriptedAttempt Value Error)
    (run : TimedRun Value Error)
    (job : Job) :
    Works settings run job (run.runJob settings script job) := by
  cases job with
  | dispatcher => exact works_dispatcherTurn run
  | item index => exact works_itemTurn run index

/-! ## What schedules attend to -/

/-- A batch in which the dispatcher and every item in a slot have what they wait
for to come; `busy` is the job whose turn is under way. -/
structure Attends (settings : Settings) (start : World Value Error) (busy : Option Job)
    (run : TimedRun Value Error) : Prop where
  inOrder : run.timeline.InOrder
  took : ∃ turns, start.turns settings turns = some run.world
  /-- A dispatcher that heeds a raised signal does not wait. -/
  alert : (settings.heedsShutdown && run.world.raised) = true → run.dispatcherWaits = false
  /-- The dispatcher has its turn to come, unless it is done or waits and cannot
  move. -/
  dispatcher : run.world.state.dispatchOver = true ∨ busy = some .dispatcher ∨
    .dispatcher ∈ run.timeline.ready ∨
      run.dispatcherWaits = true ∧
        run.world.state.canDispatch settings run.world.raised = false
  items : ∀ (index : Nat) (cell : Cell Value Error),
    run.world.state.cells[index]? = some cell → cell.holdsSlot = true →
      busy = some (.item index) ∨ .item index ∈ run.timeline.jobs

namespace Attends

variable {start : World Value Error} {busy : Option Job}

theorem took_event
    {event : Event Value Error}
    (took : ∃ turns, start.turns settings turns = some run.world)
    (steps : run.world.state.step settings run.world.raised event = some state) :
    ∃ turns, start.turns settings turns = some (run.withState state).world := by
  obtain ⟨turns, took⟩ := took
  exact ⟨turns ++ [.event event], World.turns_append_eq_some_iff.mpr
    ⟨run.world, took, World.turns_event_cons_eq_some_iff.mpr ⟨state, steps, rfl⟩⟩⟩

/-- A dispatcher that is woken has its turn to come. -/
theorem of_wakeDispatcher
    (inOrder : run.timeline.InOrder)
    (took : ∃ turns, start.turns settings turns = some run.world)
    (dispatcher : run.world.state.dispatchOver = true ∨ busy = some .dispatcher ∨
      .dispatcher ∈ run.timeline.ready ∨ run.dispatcherWaits = true)
    (items : ∀ (index : Nat) (cell : Cell Value Error),
      run.world.state.cells[index]? = some cell → cell.holdsSlot = true →
        busy = some (.item index) ∨ .item index ∈ run.timeline.jobs) :
    run.wakeDispatcher.Attends settings start busy := by
  unfold wakeDispatcher
  cases waits : run.dispatcherWaits with
  | true =>
      rw [if_pos rfl]
      refine ⟨inOrder, took, fun _ => rfl, Or.inr (Or.inr (Or.inl ?_)), ?_⟩
      · exact List.mem_append_right _ (List.mem_singleton.mpr rfl)
      · intro index cell found holds
        refine (items index cell found holds).imp id fun member => ?_
        exact (Timeline.perm_jobs_wake run.timeline _).mem_iff.mpr (List.mem_cons_of_mem _ member)
  | false =>
      rw [if_neg Bool.false_ne_true]
      refine ⟨inOrder, took, fun _ => waits, ?_, items⟩
      simpa [waits, ← or_assoc] using dispatcher

/-- The signal wakes a dispatcher that heeds it. -/
theorem raise
    (attends : run.Attends settings start busy) :
    (run.raise settings).Attends settings start busy := by
  obtain ⟨turns, took⟩ := attends.took
  have tookRaise : start.turns settings (turns ++ [.raise]) =
      some { run.world with raised := true } :=
    World.turns_append_eq_some_iff.mpr ⟨run.world, took, rfl⟩
  unfold TimedRun.raise
  cases heeds : settings.heedsShutdown with
  | true =>
      refine of_wakeDispatcher attends.inOrder ⟨_, tookRaise⟩ ?_ attends.items
      exact attends.dispatcher.imp id (Or.imp id (Or.imp id And.left))
  | false =>
      refine ⟨attends.inOrder, ⟨_, tookRaise⟩, by simp [heeds], ?_, attends.items⟩
      simpa [State.canDispatch, heeds] using attends.dispatcher

theorem signalled
    (raises : Bool)
    (log : List LogEntry)
    (attends : run.Attends settings start busy) :
    (run.signalled settings raises log).Attends settings start busy := by
  cases raises with
  | true =>
      obtain ⟨inOrder, took, alert, dispatcher, items⟩ := attends.raise
      exact ⟨inOrder, took, alert, dispatcher, items⟩
  | false =>
      obtain ⟨inOrder, took, alert, dispatcher, items⟩ := attends
      exact ⟨inOrder, took, alert, dispatcher, items⟩

/-- An item that takes another place in its slot is attended to as long as its
turn is under way. -/
theorem withState_setCell
    {after : Cell Value Error}
    {event : Event Value Error}
    (attends : run.Attends settings start (some (.item index)))
    (steps : run.world.state.step settings run.world.raised event =
      some (run.world.state.setCell index after)) :
    (run.withState (run.world.state.setCell index after)).Attends settings start
      (some (.item index)) where
  inOrder := attends.inOrder
  took := took_event attends.took steps
  alert := attends.alert
  dispatcher := by
    simp only [withState, State.dispatchOver_setCell, State.canDispatch_setCell]
    exact attends.dispatcher
  items := by
    intro other cell found holds
    by_cases same : index = other
    · exact Or.inl (by rw [same])
    · refine attends.items other cell ?_ holds
      rw [← found]
      exact (Array.getElem?_setIfInBounds_ne same).symm

/-- An item that sleeps has its turn to come. -/
theorem fallAsleep
    (milliseconds : Nat)
    (attends : run.Attends settings start (some (.item index))) :
    (run.fallAsleep index milliseconds).Attends settings start none where
  inOrder := attends.inOrder.sleep _ _
  took := attends.took
  alert := attends.alert
  dispatcher := by
    rcases attends.dispatcher with finished | same | turn | waits
    · exact Or.inl finished
    · cases same
    · exact Or.inr (Or.inr (Or.inl (Timeline.mem_ready_sleep milliseconds turn)))
    · exact Or.inr (Or.inr (Or.inr waits))
  items := by
    intro other cell found holds
    right
    refine (Timeline.perm_jobs_sleep run.timeline _ _).mem_iff.mpr ?_
    rcases attends.items other cell found holds with same | member
    · cases same
      exact List.mem_cons_self ..
    · exact List.mem_cons_of_mem _ member

/-- An item that has settled waits for nothing, and its slot is there for the
dispatcher. -/
theorem settle
    {order : Nat}
    {ending : Retry.Ending Value Error}
    {result : Retry.Attempt Value Error}
    (attends : run.Attends settings start (some (.item index)))
    (steps : run.world.state.step settings run.world.raised (.finish index result) = some state)
    (settled : state.cells[index]? = some (.settled order ending)) :
    (run.withState state).wakeDispatcher.Attends settings start none := by
  have moved : state.dispatchOver = run.world.state.dispatchOver ∧
      ∃ after, state.cells = run.world.state.cells.setIfInBounds index after := by
    cases Steps.of_step steps with
    | rest | settle =>
        refine ⟨?_, _, rfl⟩
        simp only [State.dispatchOver, State.stop, State.setCell, Array.size_setIfInBounds]
  obtain ⟨unmoved, after, cells⟩ := moved
  refine of_wakeDispatcher attends.inOrder (took_event attends.took steps) ?_ ?_
  · rcases attends.dispatcher with finished | same | turn | ⟨waits, _⟩
    · exact Or.inl (unmoved.trans finished)
    · cases same
    · exact Or.inr (Or.inr (Or.inl turn))
    · exact Or.inr (Or.inr (Or.inr waits))
  · intro other cell found holds
    change state.cells[other]? = some cell at found
    by_cases same : index = other
    · subst same
      rw [settled, Option.some.injEq] at found
      subst found
      cases holds
    · right
      rw [cells, Array.getElem?_setIfInBounds_ne same] at found
      rcases attends.items other cell found holds with isIndex | member
      · cases isIndex
        exact absurd rfl same
      · exact member

/-- The dispatcher, in whose turn every item has its own to come. -/
theorem items_of_dispatcher
    {cell : Cell Value Error}
    (attends : run.Attends settings start (some .dispatcher))
    (found : run.world.state.cells[index]? = some cell)
    (holds : cell.holdsSlot = true) :
    .item index ∈ run.timeline.jobs := by
  rcases attends.items index cell found holds with same | member
  · cases same
  · exact member

/-- A dispatcher that has ended dispatch needs no other turn. -/
theorem stop
    (attends : run.Attends settings start (some .dispatcher))
    (dispatches : run.world.state.step settings run.world.raised .dispatch = some state)
    (stopped : state.stop.isSome = true) :
    (run.withState state).Attends settings start none where
  inOrder := attends.inOrder
  took := took_event attends.took dispatches
  alert := attends.alert
  dispatcher := Or.inl (Bool.or_eq_true_iff.mpr (Or.inl stopped))
  items := by
    intro index cell found holds
    right
    cases Steps.of_step dispatches with
    | refuse | halt => exact attends.items_of_dispatcher found holds
    | launch generator spared idle => simp [State.stop, State.setCell, idle] at stopped

/-- An item that is started has its turn to come, and so has the dispatcher. -/
theorem launch
    (attends : run.Attends settings start (some .dispatcher))
    (dispatches : run.world.state.step settings run.world.raised .dispatch = some state)
    (going : state.stop = none) :
    ({ run.withState state with
      timeline := (run.timeline.wake (.item run.world.state.dispatched)).goOn .dispatcher } :
        TimedRun Value Error).Attends settings start none where
  inOrder := attends.inOrder
  took := took_event attends.took dispatches
  alert := attends.alert
  dispatcher := Or.inr (Or.inr (Or.inl (List.mem_cons_self ..)))
  items := by
    intro index cell found holds
    right
    refine List.mem_cons_of_mem _ ((Timeline.perm_jobs_wake run.timeline _).mem_iff.mpr ?_)
    cases Steps.of_step dispatches with
    | refuse | halt => cases going
    | launch generator spared idle left positive running waits =>
        by_cases same : run.world.state.dispatched = index
        · rw [same]
          exact List.mem_cons_self ..
        · have before : run.world.state.cells[index]? = some cell := by
            rw [← found]
            exact (Array.getElem?_setIfInBounds_ne same).symm
          exact List.mem_cons_of_mem _ (attends.items_of_dispatcher before holds)

/-- What has happened is a run of the batch. -/
theorem exists_run
    (attends : run.Attends settings start busy) :
    ∃ happenings, World.run settings start happenings = some run.world := by
  obtain ⟨turns, took⟩ := attends.took
  obtain ⟨happenings, runs, _⟩ := World.exists_run_of_turns took
  exact ⟨happenings, runs⟩

section Begun

variable {raised : Bool} {first : State Value Error} {generators : List Random.Generator}
  (begins : State.begin? settings generators = some first)
include begins

theorem calm
    (attends : run.Attends settings ⟨raised, first⟩ busy) :
    Calm run.world.state := by
  obtain ⟨turns, took⟩ := attends.took
  exact World.calm_of_turns begins took

/-- A dispatcher that waits cannot move. -/
theorem park
    (attends : run.Attends settings ⟨raised, first⟩ (some .dispatcher))
    (going : run.world.state.dispatchOver = false)
    (cannot : run.world.state.dispatch settings run.world.raised = none) :
    ({ run with dispatcherWaits := true } : TimedRun Value Error).Attends settings
      ⟨raised, first⟩ none := by
  obtain ⟨happenings, runs⟩ := attends.exists_run
  have waits := (World.traces_of_run begins runs).exists_waiting
  have unable : run.world.state.canDispatch settings run.world.raised = false := by
    rw [← Bool.not_eq_true]
    intro can
    have moves := (attends.calm begins).isSome_dispatch waits can
    rw [cannot] at moves
    cases moves
  refine ⟨attends.inOrder, attends.took, ?_, Or.inr (Or.inr (Or.inr ⟨rfl, unable⟩)), ?_⟩
  · intro refused
    simp [State.canDispatch, going, refused] at unable
  · exact fun index cell found holds => Or.inr (attends.items_of_dispatcher found holds)

/-- Every turn leaves the dispatcher and the items attended to. -/
theorem of_works
    (attends : run.Attends settings ⟨raised, first⟩ (some job))
    (works : Works settings run job other) :
    other.Attends settings ⟨raised, first⟩ none := by
  cases works with
  | idle finished =>
      exact ⟨attends.inOrder, attends.took, attends.alert, Or.inl finished,
        fun index cell found holds => Or.inr (attends.items_of_dispatcher found holds)⟩
  | park going cannot => exact attends.park begins going cannot
  | stop state dispatches stopped => exact attends.stop dispatches stopped
  | launch state dispatches going => exact attends.launch dispatches going
  | nothing index still =>
      refine ⟨attends.inOrder, attends.took, attends.alert, ?_, ?_⟩
      · simpa using attends.dispatcher
      · intro other cell found holds
        rcases attends.items other cell found holds with same | member
        · cases same
          obtain ⟨event, awaits⟩ :=
            Cell.exists_awaits index ((attends.calm begins).cells index cell found) holds
          exact absurd awaits (still cell event found)
        · exact Or.inr member
  | sleep index milliseconds raises log before after event found awaits steps =>
      have signalled := attends.signalled raises log
      have moved : (run.signalled settings raises log).world.state.step settings
          (run.signalled settings raises log).world.raised event =
            some ((run.signalled settings raises log).world.state.setCell index after) := by
        rw [signalled_state]
        exact steps _
      have sleeps := (signalled.withState_setCell moved).fallAsleep milliseconds
      rwa [signalled_state] at sleeps
  | settle index order raises log before result ending state found awaits steps settled =>
      exact (attends.signalled raises log).settle (by rw [signalled_state]; exact steps _) settled

/-! ## Schedules -/

omit begins in
/-- A ready job whose turn is under way is the one that is not to come. -/
theorem withReady
    {start : World Value Error}
    {before after : List Job}
    (attends : run.Attends settings start none)
    (ready : run.timeline.ready = before ++ job :: after) :
    (run.withReady (before ++ after)).Attends settings start (some job) where
  inOrder := attends.inOrder
  took := attends.took
  alert := attends.alert
  dispatcher := by
    rcases attends.dispatcher with finished | same | turn | waits
    · exact Or.inl finished
    · cases same
    · right
      rw [ready, List.perm_middle.mem_iff, List.mem_cons] at turn
      exact turn.imp (fun same => congrArg some same.symm) Or.inl
    · exact Or.inr (Or.inr (Or.inr waits))
  items := by
    intro index cell found holds
    rcases attends.items index cell found holds with same | member
    · cases same
    · have popped : run.timeline.jobs.Perm
          (job :: (run.withReady (before ++ after)).timeline.jobs) := by
        simp only [Timeline.jobs, TimedRun.withReady, ready]
        exact List.perm_middle.append_right _
      rw [popped.mem_iff, List.mem_cons] at member
      exact member.imp (fun same => congrArg some same.symm) id

/-- One step of a schedule leaves the dispatcher and the items attended to. -/
theorem of_proceeds
    (attends : run.Attends settings ⟨raised, first⟩ none)
    (proceeds : Proceeds settings script run next) :
    next.Attends settings ⟨raised, first⟩ none := by
  cases proceeds with
  | work before after job ready =>
      exact (attends.withReady ready).of_works begins (works_runJob settings script _ job)
  | raise unraised => exact attends.raise

theorem of_advances
    (attends : run.Attends settings ⟨raised, first⟩ none)
    (advances : Advances settings script run next) :
    next.Attends settings ⟨raised, first⟩ none := by
  cases advances with
  | proceed proceeds => exact attends.of_proceeds begins proceeds
  | wait idle asleep =>
      refine ⟨attends.inOrder.awaken, attends.took, attends.alert, ?_, ?_⟩
      · rcases attends.dispatcher with finished | same | turn | waits
        · exact Or.inl finished
        · cases same
        · rw [idle] at turn
          cases turn
        · exact Or.inr (Or.inr (Or.inr waits))
      · intro index cell found holds
        refine (attends.items index cell found holds).imp id fun member => ?_
        exact (Timeline.perm_jobs_awaken run.timeline).mem_iff.mpr member
  | interrupt time idle unraised later before =>
      have waited : (run.withNow time).Attends settings ⟨raised, first⟩ none :=
        ⟨attends.inOrder, attends.took, attends.alert, attends.dispatcher, attends.items⟩
      exact waited.raise

/-- Every schedule leaves the dispatcher and the items attended to. -/
theorem of_reachable
    (attends : run.Attends settings ⟨raised, first⟩ none)
    (reaches : Relation.ReflTransGen (Advances settings script) run next) :
    next.Attends settings ⟨raised, first⟩ none := by
  induction reaches with
  | refl => exact attends
  | tail _ advances inductionHypothesis => exact inductionHypothesis.of_advances begins advances

/-- A batch that has not begun waits for its dispatcher alone. -/
theorem of_beginning
    (raised : Bool) :
    (beginning raised first).Attends settings ⟨raised, first⟩ none where
  inOrder := Timeline.inOrder_start _
  took := ⟨[], rfl⟩
  alert := fun _ => rfl
  dispatcher := Or.inr (Or.inr (Or.inl (List.mem_singleton.mpr rfl)))
  items := by
    intro index cell found holds
    obtain rfl := State.eq_initial_of_begin?_eq_some begins
    obtain ⟨generator, rfl⟩ := State.eq_waiting_of_initial found
    cases holds

/-- In every schedule the dispatcher and the items are attended to. -/
theorem of_reaches
    (reaches : Relation.ReflTransGen (Advances settings script) (beginning raised first) run) :
    run.Attends settings ⟨raised, first⟩ none :=
  (of_beginning begins raised).of_reachable begins reaches

end Begun

end Attends

/-! ## The batch on a timeline -/

theorem proceed_of_next?_eq_none
    (still : run.timeline.next? = none) :
    proceed settings script turns run = run := by
  cases turns with
  | zero => rfl
  | succ turns => simp only [proceed, still]

theorem proceed_of_next?_eq_some
    {timeline : Timeline Job}
    (upcoming : run.timeline.next? = some (job, timeline)) :
    proceed settings script (turns + 1) run =
      proceed settings script turns (runJob settings script { run with timeline } job) := by
  cases job <;> simp only [proceed, upcoming, runJob]

/-- The next wake-up is at most one step away. -/
theorem reaches_awaken
    (settings : Settings)
    (script : Nat → Nat → ScriptedAttempt Value Error)
    (run : TimedRun Value Error) :
    Relation.ReflTransGen (Advances settings script) run run.awaken := by
  cases ready : run.timeline.ready with
  | nil =>
      cases sleeping : run.timeline.sleeping with
      | nil =>
          have unchanged : run.awaken = run := by
            simp only [awaken, Timeline.awaken, ready, sleeping]
          rw [unchanged]
      | cons sleeper sleepers => exact .single (.wait run ready (by simp [sleeping]))
  | cons first others =>
      have unchanged : run.awaken = run := by simp only [awaken, Timeline.awaken, ready]
      rw [unchanged]

/-- The next job is one that is ready at the next wake-up. -/
theorem proceeds_of_next?_eq_some
    {timeline : Timeline Job}
    (inOrder : run.timeline.InOrder)
    (upcoming : run.timeline.next? = some (job, timeline)) :
    Proceeds settings script run.awaken (runJob settings script { run with timeline } job) := by
  rw [Timeline.next?_eq inOrder] at upcoming
  cases awake : run.timeline.awaken.ready with
  | nil => simp [awake] at upcoming
  | cons found rest =>
      simp only [awake, Option.some.injEq, Prod.mk.injEq] at upcoming
      obtain ⟨rfl, rfl⟩ := upcoming
      exact .work run.awaken [] rest found awake

/-- The batch on a timeline is one schedule. -/
theorem reaches_proceed
    {raised : Bool}
    {first : State Value Error}
    {generators : List Random.Generator}
    (begins : State.begin? settings generators = some first)
    (attends : run.Attends settings ⟨raised, first⟩ none)
    (turns : Nat) :
    Relation.ReflTransGen (Advances settings script) run
      (proceed settings script turns run) := by
  induction turns generalizing run with
  | zero => exact .refl
  | succ turns inductionHypothesis =>
      cases upcoming : run.timeline.next? with
      | none => rw [proceed_of_next?_eq_none upcoming]
      | some found =>
          obtain ⟨job, timeline⟩ := found
          rw [proceed_of_next?_eq_some upcoming]
          have reaches : Relation.ReflTransGen (Advances settings script) run
              (runJob settings script { run with timeline } job) :=
            (reaches_awaken settings script run).tail
              (.proceed (proceeds_of_next?_eq_some attends.inOrder upcoming))
          exact reaches.trans (inductionHypothesis (attends.of_reachable begins reaches))

end TimedRun
end Batch
end TenantLoad
