import TenantLoad.Proofs.Batch.Halt
import TenantLoad.Proofs.Batch.Sequential

/-!
# Fail-fast batches stop at a failure

From the halt on only engaged items move, and the failed item is one of them,
so fewer items than there are slots end after it.  With one slot the next item
is not started before the failed one has raised the halt, and the outcomes
are successes, the failure and items that were never started.
-/

namespace TenantLoad
namespace Batch

variable {Value Error : Type}

/-- Successes, then at most one failure and nothing started after it. -/
def StopAtFailure (outcomes : List (Outcome Value Error)) : Prop :=
  ∃ succeeded rest, outcomes = succeeded ++ rest ∧
    (∀ outcome ∈ succeeded, outcome.isSuccess = true) ∧
    (rest = [] ∨ ∃ failure count, rest = .failed failure :: List.replicate count .notStarted)

/-- What can still happen once the failure of an item has raised the halt. -/
structure Confined (settings : Settings) (failed : Nat) (moment : State Value Error)
    (later : List (Act Value Error)) (final : State Value Error) : Prop where
  /-- No item is started that does not hold a slot already. -/
  started : ∀ index, moment.dispatched ≤ index → index < final.dispatched →
    index ∈ moment.engaged
  /-- No other item moves. -/
  movers : ∀ act ∈ later, ∀ index, act.mover? moment.dispatched = some index →
    index ∈ moment.engaged
  engaged : failed ∈ moment.engaged
  bounded : moment.engaged.length ≤ settings.slots
  /-- Besides the failed one fewer items than there are slots end. -/
  ended : ((rankings later).filter (· ≠ failed)).length < settings.slots

/-- Where one item holds a slot at a time, it is the last one that was
started, and it is the only one that can have failed. -/
structure OneAtATime (state : State Value Error) : Prop where
  holder : ∀ (index : Nat) (cell : Cell Value Error), state.cells[index]? = some cell →
    cell.holdsSlot = true → index + 1 = state.dispatched
  failed : ∀ (index : Nat) (cell : Cell Value Error), state.cells[index]? = some cell →
    cell.hasFailed = true → index + 1 = state.dispatched ∧ state.dispatcher ≠ .cleared

variable {settings : Settings} {state next : State Value Error} {index : Nat}

/-- With one slot, an item that holds it keeps the dispatcher from having it. -/
theorem State.dispatcher_ne_cleared_of_holdsSlot
    {cell : Cell Value Error}
    (single : state.heldSlots ≤ 1)
    (found : state.cells[index]? = some cell)
    (holds : cell.holdsSlot = true) :
    state.dispatcher ≠ .cleared := by
  intro cleared
  have positive : 0 < state.cells.countP Cell.holdsSlot :=
    Array.countP_pos_iff.mpr ⟨cell, Array.mem_of_getElem? found, holds⟩
  simp only [State.heldSlots, cleared, Dispatcher.holdsSlot, Bool.toNat_true] at single
  omega

variable [Retry.Retryable Error] {raised : Bool} {act : Act Value Error}

/-- An item has failed if it had, or if it announces that now. -/
theorem CellMoves.hasFailed_before
    {before after : Cell Value Error}
    (moves : CellMoves settings state index act before after)
    (failed : after.hasFailed = true) :
    before.hasFailed = true ∨ act = .announce index ∧ before.holdsSlot = true := by
  obtain ⟨ending, announced, fails⟩ := (Option.any_eq_true _ _).mp failed
  rcases moves.announced?_before announced with earlier | ⟨announces, concluded⟩
  · exact Or.inl ((Option.any_eq_true _ _).mpr ⟨ending, earlier, fails⟩)
  · exact Or.inr ⟨announces, by rw [concluded]; rfl⟩

namespace OneAtATime

/-- With one slot, an act of a fail-fast batch leaves the failed item the last
one that was started. -/
theorem step
    (single : OneAtATime state)
    (failFast : settings.mode = .failFast)
    (directs : Directs settings state)
    (held : state.heldSlots ≤ 1)
    (moves : Moves settings raised state act next) :
    OneAtATime next where
  holder := by
    intro index later present holds
    obtain ⟨cell, found, cellMoves⟩ := moves.cell_before present
    rw [moves.dispatched_eq]
    cases cellMoves with
    | keep =>
        have last := single.holder index _ found holds
        cases moves with
        | launch generator cleared =>
            exact absurd cleared (State.dispatcher_ne_cleared_of_holdsSlot held found holds)
        | _ => exact last
    | launch generator here => rw [here]; rfl
    | start | finish | resume | announce | rank => exact single.holder index _ found rfl
    | release => cases holds
  failed := by
    intro index later present failed
    obtain ⟨cell, found, cellMoves⟩ := moves.cell_before present
    rw [moves.dispatched_eq]
    rcases cellMoves.hasFailed_before failed with earlier | ⟨rfl, holds⟩
    · obtain ⟨last, uncleared⟩ := single.failed index cell found earlier
      cases moves with
      | clear granted running =>
          -- The failure has raised the halt.
          have halted := directs.halted.mpr ⟨failFast, index, cell, found, earlier⟩
          rw [running] at halted
          cases halted
      | launch generator cleared => exact absurd cleared uncleared
      | refuse | seek | take | halt => exact ⟨last, by simp⟩
      | start | finish | resume | announce | rank | release | gather => exact ⟨last, uncleared⟩
    · have last := single.holder index cell found holds
      have uncleared := State.dispatcher_ne_cleared_of_holdsSlot held found holds
      cases moves with
      | announce => exact ⟨last, uncleared⟩

omit [Retry.Retryable Error] in
theorem initial
    (settings : Settings)
    (generators : List Random.Generator) :
    OneAtATime (.initial settings generators : State Value Error) where
  holder := by
    intro index cell present holds
    obtain ⟨generator, rfl⟩ := State.eq_waiting_of_initial present
    cases holds
  failed := by
    intro index cell present failed
    obtain ⟨generator, rfl⟩ := State.eq_waiting_of_initial present
    cases failed

end OneAtATime

variable {generators : List Random.Generator} {happenings : List (Happening Value Error)}
  {final : World Value Error}

/-- In every run of a fail-fast batch with one slot the failed item is the last
one that was started. -/
theorem World.oneAtATime_of_run
    (failFast : settings.mode = .failFast)
    (oneSlot : settings.slots = 1)
    (begins : State.begin? settings generators = some state)
    (runs : World.run settings ⟨raised, state⟩ happenings = some final) :
    OneAtATime final.state := by
  obtain rfl := State.eq_initial_of_begin?_eq_some begins
  have together := World.run_state_induction
    (motive := fun _ current =>
      OneAtATime current ∧ Directs settings current ∧
        current.free + current.heldSlots = settings.slots)
    ⟨.initial settings generators, .initial settings generators,
      State.free_add_heldSlots_initial generators⟩
    (by
      rintro past raised current act next ⟨single, directs, balance⟩ moves
      exact ⟨single.step failFast directs (by omega) moves, directs.step moves,
        moves.free_add_heldSlots.trans balance⟩)
    runs
  exact together.1

omit [Retry.Retryable Error] in
theorem Outcome.isSuccess_or_isFailure_ofEnding
    (ending : Retry.Ending Value Error) :
    (ofEnding ending).isSuccess = true ∨ (ofEnding ending).isFailure = true := by
  cases ending with
  | succeeded => exact Or.inl rfl
  | failed | crashed => exact Or.inr rfl

omit [Retry.Retryable Error] in
/-- Outcomes stop at a failure if all items before the last started one
succeeded, and that one failed unless all were started. -/
theorem stopAtFailure_of_started
    {outcomes : List (Outcome Value Error)}
    (started : Nat)
    (earlier : ∀ index outcome, outcomes[index]? = some outcome → index + 1 < started →
      outcome.isSuccess = true)
    (last : ∀ index outcome, outcomes[index]? = some outcome → index + 1 = started →
      outcome.isSuccess = true ∨ outcome.isFailure = true)
    (later : ∀ index outcome, outcomes[index]? = some outcome → started ≤ index →
      outcome = .notStarted)
    (stopped : started < outcomes.length →
      ∃ index outcome, index + 1 = started ∧ outcomes[index]? = some outcome ∧
        outcome.isFailure = true) :
    StopAtFailure outcomes := by
  by_cases fails : ∃ index outcome, index + 1 = started ∧ outcomes[index]? = some outcome ∧
      outcome.isFailure = true
  · obtain ⟨index, outcome, rfl, found, isFailure⟩ := fails
    cases outcome with
    | succeeded | notStarted => cases isFailure
    | failed failure =>
        obtain ⟨inside, shown⟩ := List.getElem?_eq_some_iff.mp found
        have rest : outcomes.drop (index + 1) =
            List.replicate (outcomes.drop (index + 1)).length .notStarted := by
          rw [List.eq_replicate_iff]
          refine ⟨rfl, ?_⟩
          intro outcome member
          obtain ⟨place, present⟩ := List.mem_iff_getElem?.mp member
          rw [List.getElem?_drop] at present
          exact later _ outcome present (Nat.le_add_right _ _)
        refine ⟨outcomes.take index, outcomes.drop index, (List.take_append_drop ..).symm, ?_, ?_⟩
        · intro outcome member
          obtain ⟨place, present⟩ := List.mem_iff_getElem?.mp member
          rw [List.getElem?_take] at present
          split at present
          · exact earlier place outcome present (by omega)
          · cases present
        · refine Or.inr ⟨failure, (outcomes.drop (index + 1)).length, ?_⟩
          rw [List.drop_eq_getElem_cons inside, shown, ← rest]
  · refine ⟨outcomes, [], (List.append_nil _).symm, ?_, Or.inl rfl⟩
    have all : outcomes.length ≤ started := Nat.le_of_not_lt fun left => fails (stopped left)
    intro outcome member
    obtain ⟨index, found⟩ := List.mem_iff_getElem?.mp member
    have inside := (List.getElem?_eq_some_iff.mp found).1
    rcases Nat.lt_or_eq_of_le (Nat.le_trans inside all) with before | here
    · exact earlier index outcome found before
    · rcases last index outcome found here with success | failure
      · exact success
      · exact absurd ⟨index, outcome, here, found, failure⟩ fails

/-- In a complete fail-fast batch with one slot that shutdown leaves alone, the
first failure is the last outcome but for the items that were never started. -/
theorem World.stopAtFailure_of_isComplete
    (failFast : settings.mode = .failFast)
    (oneSlot : settings.slots = 1)
    (begins : State.begin? settings generators = some state)
    (runs : World.run settings ⟨raised, state⟩ happenings = some final)
    (undisturbed : settings.heedsShutdown = true → raised = false ∧ .raise ∉ happenings)
    (complete : final.state.isComplete = true) :
    StopAtFailure (final.state.report settings).outcomes := by
  have single := World.oneAtATime_of_run failFast oneSlot begins runs
  have failed : ∀ {index order : Nat} {ending : Retry.Ending Value Error},
      final.state.cells[index]? = some (.settled order ending) →
        (Outcome.ofEnding ending).isFailure = true → index + 1 = final.state.dispatched :=
    fun settled fails => (single.failed _ _ settled fails).1
  refine stopAtFailure_of_started final.state.dispatched ?_ ?_ ?_ ?_
  · intro index outcome found before
    rcases World.outcome_of_isComplete begins runs complete found with
      ⟨waiting, _⟩ | ⟨_, order, ending, gathered, rfl⟩
    · omega
    · rcases Outcome.isSuccess_or_isFailure_ofEnding ending with success | fails
      · exact success
      · have := failed gathered.settled fails
        omega
  · intro index outcome found here
    rcases World.outcome_of_isComplete begins runs complete found with
      ⟨waiting, _⟩ | ⟨_, order, ending, _, rfl⟩
    · omega
    · exact Outcome.isSuccess_or_isFailure_ofEnding ending
  · intro index outcome found waiting
    rcases World.outcome_of_isComplete begins runs complete found with
      ⟨_, _, missing⟩ | ⟨started, _⟩
    · exact missing
    · omega
  · intro left
    rw [State.report, Array.length_toList, (World.gathers_of_run begins runs).size] at left
    rcases World.stopped_of_isComplete begins runs complete left with
      stands | ⟨_, index, order, ending, gathered, fails⟩
    · have cancelled : (final.state.report settings).cancelled = true := by
        simp [State.report, State.stop, stands]
      rw [World.cancelled_eq_false_of_run begins runs undisturbed] at cancelled
      cases cancelled
    · exact ⟨index, .ofEnding ending, failed gathered.settled fails,
        (Array.getElem?_toList ..).trans gathered.arrived, fails⟩

/-- A started item of a complete batch has settled, and its outcome is the one
that its own attempts led to. -/
theorem World.settled_of_isComplete
    {generator : Random.Generator}
    (begins : State.begin? settings generators = some state)
    (runs : World.run settings ⟨raised, state⟩ happenings = some final)
    (complete : final.state.isComplete = true)
    (known : generators[index]? = some generator)
    (started : index < (actsOf happenings).countP Act.isLaunch) :
    ∃ order ending, final.state.cells[index]? = some (.settled order ending) ∧
      Retry.replay settings.policy settings.classifier generator
          (results index (actsOf happenings)) =
        .ended ending ∧
      (final.state.report settings).outcomes[index]? = some (.ofEnding ending) := by
  have traces := World.traces_of_run begins runs
  obtain ⟨cell, found, item⟩ := traces.item index generator known
  rcases World.item_of_isComplete begins runs complete found with
    ⟨waiting, _, _⟩ | ⟨_, order, ending, settled, arrived⟩
  · rw [traces.dispatched] at waiting
    omega
  · have same := settled
    rw [found, Option.some.injEq] at same
    refine ⟨order, ending, settled, ?_, (Array.getElem?_toList ..).trans arrived⟩
    rw [← item.progress, same]
    rfl

/-- From the moment a failure raises the halt only engaged items move. -/
theorem World.confined_of_announce
    {earlier later : List (Happening Value Error)}
    {before moment : World Value Error}
    (begins : State.begin? settings generators = some state)
    (runs : World.run settings ⟨raised, state⟩ (earlier ++ .act (.announce index) :: later) =
      some final)
    (runsBefore : World.run settings ⟨raised, state⟩ earlier = some before)
    (announces : before.step settings (.act (.announce index)) = some moment)
    (halts : moment.state.halted = true) :
    Confined settings index moment.state (actsOf later) final.state := by
  have reaches : World.run settings ⟨raised, state⟩ (earlier ++ [.act (.announce index)]) =
      some moment :=
    run_append_eq_some_iff.mpr ⟨before, runsBefore, by rw [run_singleton, announces]⟩
  have whole : World.run settings ⟨raised, state⟩
      ((earlier ++ [.act (.announce index)]) ++ later) = some final := by
    rw [List.append_assoc, List.singleton_append]
    exact runs
  obtain ⟨reached, reachedRuns, onwards⟩ := run_append_eq_some_iff.mp whole
  obtain rfl : moment = reached := Option.some.inj (reaches.symm.trans reachedRuns)
  have after := World.afterHalt_of_run halts onwards
  have engages : index ∈ moment.state.engaged := by
    simp only [step, Option.map_eq_some_iff] at announces
    obtain ⟨next, acts, rfl⟩ := announces
    cases Moves.of_act acts with
    | announce _ ending found =>
        have inside := (Array.getElem?_eq_some_iff.mp found).1
        exact State.mem_engaged_iff.mpr
          (Or.inl ⟨.announced ending, Array.getElem?_setIfInBounds_self_of_lt inside, rfl⟩)
  have bounded := World.length_engaged_le_slots begins reaches
  refine
    { started := after.launched
      movers := after.movers
      engaged := engages
      bounded
      ended := Nat.lt_of_lt_of_le ?_ bounded }
  have distinct : (rankings (actsOf later)).Nodup := by
    have nodup := (World.traces_of_run begins whole).rankings_nodup
    rw [actsOf_append, rankings, List.filterMap_append] at nodup
    exact nodup.of_append_right
  refine State.length_lt_of_forall_mem_engaged engages (distinct.filter _) (by simp) ?_
  intro other member
  obtain ⟨act, happened, ranked⟩ := List.mem_filterMap.mp (List.mem_of_mem_filter member)
  refine after.movers act happened other ?_
  cases act <;> simp_all [Act.ranked?, Act.mover?]

/-- A fail-fast batch that asks for no more slots than there can be, and so
begins, stops tightly.  The items that have been started are a prefix of all
items.  From the moment a failure raises the halt no item is started that does
not hold a slot already, no other item moves, and besides the failed one fewer
items than there are slots are counted as ended.  Every run can be carried on
until the batch is complete, and then every started item has settled with the
outcome that its own attempts led to, and every other one was never started.
With one slot, and left alone by shutdown, the outcomes are successes, then the
first failure, then nothing that was started. -/
theorem failFast_stops_dispatch
    (failFast : settings.mode = .failFast)
    (begins : State.begin? settings generators = some state)
    (runs : World.run settings ⟨raised, state⟩ happenings = some final) :
    (∀ index cell, final.state.cells[index]? = some cell →
        (cell.isWaiting = false ↔ index < (actsOf happenings).countP Act.isLaunch)) ∧
      (∀ earlier index later before moment,
        happenings = earlier ++ .act (.announce index) :: later →
        World.run settings ⟨raised, state⟩ earlier = some before →
        before.step settings (.act (.announce index)) = some moment →
        before.state.halted = false → moment.state.halted = true →
          Confined settings index moment.state (actsOf later) final.state) ∧
      (∃ (later : List (Act Value Error)) (complete : World Value Error),
        World.run settings final (later.map .act) = some complete ∧
          complete.state.isComplete = true) ∧
      (final.state.isComplete = true →
        (∀ index generator, generators[index]? = some generator →
          if index < (actsOf happenings).countP Act.isLaunch then
            ∃ order ending, final.state.cells[index]? = some (.settled order ending) ∧
              Retry.replay settings.policy settings.classifier generator
                  (results index (actsOf happenings)) =
                .ended ending ∧
              (final.state.report settings).outcomes[index]? = some (.ofEnding ending)
          else (final.state.report settings).outcomes[index]? = some .notStarted) ∧
        (settings.slots = 1 →
          (settings.heedsShutdown = true → raised = false ∧ .raise ∉ happenings) →
            StopAtFailure (final.state.report settings).outcomes)) := by
  have traces := World.traces_of_run begins runs
  refine ⟨?_, ?_, World.exists_complete_run begins runs, ?_⟩
  · intro index cell found
    obtain ⟨_, _, item⟩ := traces.item_of_present found
    rw [← Bool.not_eq_true, item.waits, Nat.not_le, traces.dispatched]
  · rintro earlier index later before moment rfl runsBefore announces _ halts
    exact World.confined_of_announce begins runs runsBefore announces halts
  · intro complete
    refine ⟨?_, fun oneSlot undisturbed =>
      World.stopAtFailure_of_isComplete failFast oneSlot begins runs undisturbed complete⟩
    intro index generator known
    split
    · rename_i started
      exact World.settled_of_isComplete begins runs complete known started
    · rename_i unstarted
      obtain ⟨cell, found, _⟩ := traces.item index generator known
      rcases World.item_of_isComplete begins runs complete found with
        ⟨_, _, missing⟩ | ⟨started, _⟩
      · exact (Array.getElem?_toList ..).trans missing
      · rw [traces.dispatched] at started
        exact absurd started unstarted

/-- Two slots for three items: the first one crashes when the dispatcher has
already found the halt down for the second one, which still runs; the third
one is never started. -/
theorem failFast_stops_dispatch_past_the_check :
    let settings : Settings :=
      { concurrency := 2, mode := .failFast, policy := ⟨1, .none⟩, classifier := .standard,
        heedsShutdown := false }
    let generators := List.replicate 3 (Random.Generator.ofSeed 7)
    let start : State Nat Api.Error := .initial settings generators
    let happenings : List (Happening Nat Api.Error) :=
      [.act .look, .act .take, .act .check, .act .launch, .act (.start 0), .act .look,
        .act .take, .act .check, .act (.finish 0 (.crashed "lost")), .act (.announce 0),
        .act .launch, .act .look, .act (.rank 0), .act (.release 0), .act .take, .act .check,
        .act (.start 1), .act (.finish 1 (.returned 5)), .act (.announce 1), .act (.rank 1),
        .act (.release 1), .act (.gather 1), .act (.gather 0)]
    State.begin? settings generators = some start ∧
      ∃ final, World.run settings ⟨false, start⟩ happenings = some final ∧
        final.state.isComplete = true ∧
        (∃ order ending, final.state.cells[1]? = some (.settled order ending) ∧
          (final.state.report settings).outcomes[1]? = some (.ofEnding ending)) ∧
        (final.state.report settings).outcomes[2]? = some .notStarted := by
  intro settings generators start happenings
  have begins : State.begin? settings generators = some start := rfl
  have runsOn : (World.run settings ⟨false, start⟩ happenings).any
      (fun final => final.state.isComplete) = true := by
    decide +kernel
  obtain ⟨final, runs, complete⟩ := (Option.any_eq_true _ _).mp runsOn
  obtain ⟨_, _, _, ended⟩ := failFast_stops_dispatch rfl begins runs
  obtain ⟨order, ending, settled, _, shown⟩ := (ended complete).1 1 _ rfl
  exact ⟨begins, final, runs, complete, ⟨order, ending, settled, shown⟩,
    (ended complete).1 2 _ rfl⟩

end Batch
end TenantLoad
