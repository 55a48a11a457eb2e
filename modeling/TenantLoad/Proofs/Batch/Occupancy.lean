import TenantLoad.Proofs.Batch.Countdown
import TenantLoad.Proofs.Batch.Shutdown

/-!
# A batch keeps its slots occupied

The items are dispatched one after the other.  Whenever the clock goes on,
everything has been dispatched, dispatch has been stopped, or every slot is
held by an item: between two events the dispatched items are those that have
settled and those in slots, and a dispatcher that waits cannot move.  So an
item that settles makes room for the next one before the clock goes on.
-/

namespace TenantLoad
namespace Batch

variable {Value Error : Type} [Retry.Retryable Error] {settings : Settings} {raised : Bool}
  {state : State Value Error} {generators : List Random.Generator}

/-! ## Free slots and held ones -/

/-- Every dispatch takes a slot and every settled item gives one back. -/
theorem World.free_add_dispatched_of_turns
    {turns : List (Turn Value Error)}
    {final : World Value Error}
    (begins : State.begin? settings generators = some state)
    (takes : World.turns settings ⟨raised, state⟩ turns = some final) :
    final.state.free + final.state.dispatched = settings.slots + final.state.settledCount := by
  obtain rfl := State.eq_initial_of_begin?_eq_some begins
  refine World.turns_induction
    (motive := fun current => current.state.free + current.state.dispatched =
      settings.slots + current.state.settledCount)
    rfl (fun _ balance => balance) ?_ takes
  intro current event next balance steps
  cases steps with
  | refuse | halt | start | rest | resume => exact balance
  | launch generator spared idle left positive =>
      dsimp only [State.setCell] at balance ⊢
      omega
  | settle =>
      dsimp only [State.setCell] at balance ⊢
      omega

omit [Retry.Retryable Error] in
/-- Between events the slots that are not free are held by items. -/
theorem Calm.free_add_countP_holdsSlot
    (calm : Calm state)
    (balance : state.free + state.heldSlots = settings.slots) :
    state.free + state.cells.countP Cell.holdsSlot = settings.slots := by
  have without : state.dispatcher.holdsSlot = false := by
    rcases calm.dispatcher with idle | ⟨_, stopped⟩
    · rw [idle]
      rfl
    · rw [stopped]
      rfl
  simpa [State.heldSlots, without] using balance

omit [Retry.Retryable Error] in
theorem State.stop_eq_some_iff
    {reason : Stop} :
    state.stop = some reason ↔ state.dispatcher = .stopped reason := by
  cases stands : state.dispatcher <;> simp [stop, stands]

/-- Dispatch has been stopped by the halt or by the signal. -/
theorem World.cause_of_stop
    {happenings : List (Happening Value Error)}
    {final : World Value Error}
    {reason : Stop}
    (begins : State.begin? settings generators = some state)
    (runs : World.run settings ⟨raised, state⟩ happenings = some final)
    (stopped : final.state.stop = some reason) :
    match reason with
    | .failure => final.state.halted = true
    | .shutdown => settings.heedsShutdown = true ∧ final.raised = true := by
  rw [State.stop_eq_some_iff] at stopped
  cases reason with
  | failure => exact (World.directs_of_run begins runs).stopped stopped
  | shutdown => exact World.raised_of_run_of_stopped begins runs stopped

namespace TimedRun

variable {script : Nat → Nat → ScriptedAttempt Value Error}
  {run other next later : TimedRun Value Error} {job : Job}

/-! ## One step of a schedule -/

omit [Retry.Retryable Error] in
@[simp] theorem wakeDispatcher_now
    (run : TimedRun Value Error) :
    run.wakeDispatcher.timeline.now = run.timeline.now := by
  unfold wakeDispatcher
  split <;> rfl

omit [Retry.Retryable Error] in
@[simp] theorem raise_now
    (run : TimedRun Value Error) :
    (run.raise settings).timeline.now = run.timeline.now := by
  unfold raise
  split
  · exact wakeDispatcher_now _
  · rfl

omit [Retry.Retryable Error] in
@[simp] theorem fallAsleep_now
    (run : TimedRun Value Error)
    (index milliseconds : Nat) :
    (run.fallAsleep index milliseconds).timeline.now = run.timeline.now := by
  unfold fallAsleep Timeline.sleep
  split <;> rfl

omit [Retry.Retryable Error] in
@[simp] theorem signalled_now
    (raises : Bool)
    (log : List LogEntry)
    (run : TimedRun Value Error) :
    (run.signalled settings raises log).timeline.now = run.timeline.now := by
  cases raises with
  | true => exact raise_now run
  | false => rfl

/-- No time passes in a turn. -/
theorem Works.now_eq
    (works : Works settings run job other) :
    other.timeline.now = run.timeline.now := by
  cases works with
  | idle | park | stop | launch | nothing => rfl
  | sleep index milliseconds raises log =>
      rw [fallAsleep_now]
      exact signalled_now raises log run
  | settle index order raises log =>
      rw [wakeDispatcher_now]
      exact signalled_now raises log run

/-- A turn dispatches the next item or none, and settles an item or none. -/
theorem Works.counts
    (works : Works settings run job other) :
    (other.world.state.dispatched = run.world.state.dispatched ∨
        other.world.state.dispatched = run.world.state.dispatched + 1) ∧
      run.world.state.settledCount ≤ other.world.state.settledCount := by
  have step : ∀ {event : Event Value Error} {raised : Bool} {next : State Value Error},
      run.world.state.step settings raised event = some next →
      (next.dispatched = run.world.state.dispatched ∨
        next.dispatched = run.world.state.dispatched + 1) ∧
      run.world.state.settledCount ≤ next.settledCount := by
    intro event raised next steps
    cases Steps.of_step steps with
    | refuse | halt | start | rest | resume => exact ⟨Or.inl rfl, Nat.le_refl _⟩
    | launch => exact ⟨Or.inr rfl, Nat.le_refl _⟩
    | settle => exact ⟨Or.inl rfl, Nat.le_succ _⟩
  cases works with
  | idle | park | nothing => exact ⟨Or.inl rfl, Nat.le_refl _⟩
  | stop state dispatches | launch state dispatches => exact step dispatches
  | sleep index milliseconds raises log before after event found awaits steps =>
      exact step (steps run.world.raised)
  | settle index order raises log before result ending state found awaits steps =>
      rw [wakeDispatcher_world]
      exact step (steps run.world.raised)

/-- No time passes in a step that is no wait. -/
theorem Proceeds.now_eq
    (proceeds : Proceeds settings script run next) :
    next.timeline.now = run.timeline.now := by
  cases proceeds with
  | work before after job ready =>
      have works := works_runJob settings script (run.withReady (before ++ after)) job
      exact works.now_eq
  | raise unraised => exact raise_now run

theorem Proceeds.counts
    (proceeds : Proceeds settings script run next) :
    (next.world.state.dispatched = run.world.state.dispatched ∨
        next.world.state.dispatched = run.world.state.dispatched + 1) ∧
      run.world.state.settledCount ≤ next.world.state.settledCount := by
  cases proceeds with
  | work before after job ready =>
      have works := works_runJob settings script (run.withReady (before ++ after)) job
      exact works.counts
  | raise unraised =>
      rw [raise_world]
      exact ⟨Or.inl rfl, Nat.le_refl _⟩

/-- Until the clock goes on no settled item is forgotten. -/
theorem settledCount_le_of_proceeds
    (reaches : Relation.ReflTransGen (Proceeds settings script) run later) :
    later.timeline.now = run.timeline.now ∧
      run.world.state.settledCount ≤ later.world.state.settledCount := by
  induction reaches with
  | refl => exact ⟨rfl, Nat.le_refl _⟩
  | tail _ proceeds inductionHypothesis =>
      exact ⟨proceeds.now_eq.trans inductionHypothesis.1,
        Nat.le_trans inductionHypothesis.2 proceeds.counts.2⟩

theorem reaches_of_proceeds
    (reaches : Relation.ReflTransGen (Proceeds settings script) run later) :
    Relation.ReflTransGen (Advances settings script) run later :=
  reaches.lift id fun _ _ proceeds => .proceed proceeds

/-- Items are dispatched one at a time. -/
theorem Advances.dispatched_cases
    (advances : Advances settings script run next) :
    next.world.state.dispatched = run.world.state.dispatched ∨
      next.world.state.dispatched = run.world.state.dispatched + 1 := by
  cases advances with
  | proceed proceeds => exact proceeds.counts.1
  | wait => exact Or.inl rfl
  | interrupt time =>
      rw [raise_world]
      exact Or.inl rfl

/-- Time passes only while no job is ready. -/
theorem Advances.idle_of_now_ne
    (advances : Advances settings script run next)
    (passes : next.timeline.now ≠ run.timeline.now) :
    run.timeline.ready = [] := by
  cases advances with
  | proceed proceeds => exact absurd proceeds.now_eq passes
  | wait idle => exact idle
  | interrupt time idle => exact idle

/-! ## Quiet moments -/

section Quiet

variable (begins : State.begin? settings generators = some state)
  (attends : run.Attends settings ⟨raised, state⟩ none)
include begins attends

/-- No more items have been dispatched than have settled or find a slot. -/
theorem Attends.free_add_dispatched :
    run.world.state.free + run.world.state.dispatched =
      settings.slots + run.world.state.settledCount := by
  obtain ⟨turns, took⟩ := attends.took
  exact World.free_add_dispatched_of_turns begins took

omit begins in
/-- Where no job is ready and something is left to dispatch, no slot is free. -/
theorem Attends.free_eq_zero
    (idle : run.timeline.ready = [])
    (going : run.world.state.dispatchOver = false) :
    run.world.state.free = 0 := by
  rcases attends.dispatcher with finished | same | turn | ⟨_, cannot⟩
  · rw [going] at finished
    cases finished
  · cases same
  · rw [idle] at turn
    cases turn
  · simp only [State.canDispatch, going, Bool.not_false, Bool.true_and, Bool.or_eq_false_iff,
      decide_eq_false_iff_not] at cannot
    omega

/-- Where no job is ready and dispatch has not been stopped, as many items have
been dispatched as there can have been. -/
theorem Attends.dispatched_eq_min
    (idle : run.timeline.ready = [])
    (unstopped : run.world.state.stop = none) :
    run.world.state.dispatched =
      min generators.length (settings.slots + run.world.state.settledCount) := by
  obtain ⟨happenings, runs⟩ := attends.exists_run
  have size := (World.traces_of_run begins runs).size
  have within := (World.directs_of_run begins runs).within
  have balance := attends.free_add_dispatched begins
  cases going : run.world.state.dispatchOver with
  | true =>
      simp only [State.dispatchOver, unstopped, Option.isSome_none, Bool.false_or,
        decide_eq_true_eq] at going
      omega
  | false =>
      have taken := attends.free_eq_zero idle going
      omega

/-- Where no job is ready every slot is held, unless everything has been
dispatched or dispatch has been stopped. -/
theorem Attends.cases_of_idle
    (idle : run.timeline.ready = []) :
    run.world.state.dispatched = generators.length ∨
      (∃ reason, run.world.state.stop = some reason) ∨
      run.world.state.cells.countP Cell.holdsSlot = settings.slots := by
  obtain ⟨happenings, runs⟩ := attends.exists_run
  have size := (World.traces_of_run begins runs).size
  have within := (World.directs_of_run begins runs).within
  cases going : run.world.state.dispatchOver with
  | true =>
      rw [State.dispatchOver, Bool.or_eq_true, decide_eq_true_eq,
        Option.isSome_iff_exists] at going
      rcases going with stopped | all
      · exact Or.inr (Or.inl stopped)
      · exact Or.inl (by omega)
  | false =>
      have taken := attends.free_eq_zero idle going
      have held := (attends.calm begins).free_add_countP_holdsSlot
        (World.free_add_heldSlots_of_run begins runs)
      exact Or.inr (Or.inr (by omega))

end Quiet

end TimedRun

/-- Every schedule of a batch on one thread dispatches the items in order and
keeps the slots occupied, if the batch begins, that is, asks for no more slots
than there can be.  The dispatched items are at all times the first ones, one
step adds at most the next one, and time passes only while no job is ready.  In
such a moment everything has been dispatched, the halt or the signal has stopped
dispatch, or as many items hold a slot as there are slots.  So after an item has
settled, with something left to dispatch, another one has been dispatched before
time passes, unless dispatch has been stopped. -/
theorem slots_stay_occupied
    {script : Nat → Nat → ScriptedAttempt Value Error}
    {run : TimedRun Value Error}
    (begins : State.begin? settings generators = some state)
    (reaches : Relation.ReflTransGen (TimedRun.Advances settings script)
      (.beginning raised state) run) :
    (∀ (index : Nat) (cell : Cell Value Error), run.world.state.cells[index]? = some cell →
        (cell.isWaiting = false ↔ index < run.world.state.dispatched)) ∧
      (∀ next, TimedRun.Advances settings script run next →
        (next.world.state.dispatched = run.world.state.dispatched ∨
            next.world.state.dispatched = run.world.state.dispatched + 1) ∧
          (next.timeline.now ≠ run.timeline.now → run.timeline.ready = [])) ∧
      (run.timeline.ready = [] →
        run.world.state.dispatched = generators.length ∨
          (run.world.state.stop = some .failure ∧ run.world.state.halted = true) ∨
          (run.world.state.stop = some .shutdown ∧ settings.heedsShutdown = true ∧
            run.world.raised = true) ∨
          run.world.state.cells.countP Cell.holdsSlot = max 1 settings.concurrency) ∧
      ∀ next, TimedRun.Proceeds settings script run next →
        next.world.state.settledCount = run.world.state.settledCount + 1 →
        run.world.state.dispatched < generators.length →
        (∃ later, Relation.ReflTransGen (TimedRun.Proceeds settings script) next later ∧
            later.timeline.ready = []) ∧
          ∀ later, Relation.ReflTransGen (TimedRun.Proceeds settings script) next later →
            later.timeline.ready = [] →
            later.timeline.now = run.timeline.now ∧
              (later.world.state.stop = none →
                run.world.state.dispatched < later.world.state.dispatched) := by
  have attends := TimedRun.Attends.of_reaches begins reaches
  obtain ⟨happenings, runs⟩ := attends.exists_run
  refine ⟨?_, fun next advances => ⟨advances.dispatched_cases, advances.idle_of_now_ne⟩, ?_, ?_⟩
  · intro index cell found
    obtain ⟨_, _, item⟩ := (World.traces_of_run begins runs).item_of_present found
    rw [← Bool.not_eq_true, item.waits, Nat.not_le]
  · intro idle
    rcases attends.cases_of_idle begins idle with all | ⟨reason, stopped⟩ | occupied
    · exact Or.inl all
    · have cause := World.cause_of_stop begins runs stopped
      cases reason with
      | failure => exact Or.inr (Or.inl ⟨stopped, cause⟩)
      | shutdown => exact Or.inr (Or.inr (Or.inl ⟨stopped, cause⟩))
    · exact Or.inr (Or.inr (Or.inr occupied))
  · intro next proceeds settles left
    have attendsNext := attends.of_proceeds begins proceeds
    refine ⟨attendsNext.exists_idle begins script, fun later reachesLater idle => ?_⟩
    obtain ⟨now, kept⟩ := TimedRun.settledCount_le_of_proceeds reachesLater
    refine ⟨now.trans proceeds.now_eq, fun unstopped => ?_⟩
    have attendsLater :=
      attendsNext.of_reachable begins (TimedRun.reaches_of_proceeds reachesLater)
    have before := attends.free_add_dispatched begins
    have after := attendsLater.dispatched_eq_min begins idle unstopped
    omega

/-- Three items in two slots: both are held while the clock goes on to the end of
the first item, and the third one is dispatched at that instant. -/
theorem slots_stay_occupied_after_an_ending :
    let settings : Settings :=
      { concurrency := 2, mode := .failSoft, policy := ⟨1, .none⟩, classifier := .standard,
        heedsShutdown := true }
    let script : Nat → Nat → ScriptedAttempt Nat Api.Error :=
      fun item _ => ⟨false, 5 + item, false, .returned item⟩
    let generators := List.replicate 3 (Random.Generator.ofSeed 7)
    let start : State Nat Api.Error := .initial settings generators
    State.begin? settings generators = some start ∧
      ∃ quiet run next later,
        Relation.ReflTransGen (TimedRun.Advances settings script) (.beginning false start) quiet ∧
        quiet.timeline.ready = [] ∧ quiet.world.state.cells.countP Cell.holdsSlot = 2 ∧
        TimedRun.Advances settings script quiet run ∧ TimedRun.Proceeds settings script run next ∧
        next.world.state.settledCount = run.world.state.settledCount + 1 ∧
        Relation.ReflTransGen (TimedRun.Proceeds settings script) next later ∧
        later.timeline.ready = [] ∧ later.timeline.now = run.timeline.now ∧
        run.world.state.dispatched < later.world.state.dispatched := by
  intro settings script generators start
  have begins : State.begin? settings generators = some start := rfl
  let work (run : TimedRun Nat Api.Error) (ready : List Job) (job : Job) :=
    TimedRun.runJob settings script (run.withReady ready) job
  let quiet := TimedRun.proceed settings script 5 (.beginning false start)
  let next := work quiet.awaken [] (.item 0)
  let launched := work next [] .dispatcher
  let ended := work launched [.item 2] .dispatcher
  let later := work ended [] (.item 2)
  have toQuiet : Relation.ReflTransGen (TimedRun.Advances settings script)
      (.beginning false start) quiet :=
    TimedRun.reaches_proceed begins (.of_beginning begins false) 5
  have idle : quiet.timeline.ready = [] := by decide +kernel
  have waits : TimedRun.Advances settings script quiet quiet.awaken :=
    .wait quiet idle (by decide +kernel)
  have ends : TimedRun.Proceeds settings script quiet.awaken next :=
    .work quiet.awaken [] [] (.item 0) (by decide +kernel)
  have launches : TimedRun.Proceeds settings script next launched :=
    .work next [] [] .dispatcher (by decide +kernel)
  have finishes : TimedRun.Proceeds settings script launched ended :=
    .work launched [] [.item 2] .dispatcher (by decide +kernel)
  have begun : TimedRun.Proceeds settings script ended later :=
    .work ended [] [] (.item 2) (by decide +kernel)
  have toLater := ((Relation.ReflTransGen.single launches).tail finishes).tail begun
  have settles : next.world.state.settledCount = quiet.awaken.world.state.settledCount + 1 := by
    decide +kernel
  obtain ⟨_, _, occupied, _⟩ := slots_stay_occupied begins toQuiet
  obtain ⟨_, _, _, replaced⟩ := slots_stay_occupied begins (toQuiet.tail waits)
  obtain ⟨now, more⟩ := (replaced next ends settles (by decide +kernel)).2 later toLater
    (by decide +kernel)
  refine ⟨begins, quiet, quiet.awaken, next, later, toQuiet, idle, ?_, waits, ends, settles, toLater,
    by decide +kernel, now, more (by decide +kernel)⟩
  rcases occupied idle with all | ⟨stopped, _⟩ | ⟨stopped, _⟩ | held
  · exact absurd all (by decide +kernel)
  · exact absurd stopped (by decide +kernel)
  · exact absurd stopped (by decide +kernel)
  · exact held

end Batch
end TenantLoad
