import TenantLoad.Proofs.Batch.Completion
import TenantLoad.Proofs.Batch.Report

/-!
# Results account for every item

In a complete batch every item was never started or has ended and been
gathered.  Its report shows the outcome that each item's own attempts lead to,
keeps the failed item that was counted first and is sound, so no item is lost
on the way to the result.
-/

namespace TenantLoad
namespace Batch

variable {Value Error : Type}

/-- The outcome of an item whose retry loop stands so in a complete batch. -/
def Outcome.ofProgress : Retry.Progress Value Error → Outcome Value Error
  | .trying .. => .notStarted
  | .ended ending => .ofEnding ending

/-- A report is cancelled where shutdown stopped the dispatcher. -/
theorem State.dispatcher_eq_of_cancelled
    {settings : Settings}
    (state : State Value Error)
    (cancelled : (state.report settings).cancelled = true) :
    state.dispatcher = .stopped .shutdown := by
  simp only [report, stop, beq_iff_eq] at cancelled
  split at cancelled
  · rename_i reason stands
    rw [stands, Option.some.inj cancelled]
  · cases cancelled

variable [Retry.Retryable Error] {settings : Settings} {raised : Bool}
  {state : State Value Error} {generators : List Random.Generator}
  {happenings : List (Happening Value Error)} {final : World Value Error} {index : Nat}

/-- In a complete batch an item was never started, or it has ended and its
outcome has been gathered. -/
theorem World.item_of_isComplete
    (begins : State.begin? settings generators = some state)
    (runs : World.run settings ⟨raised, state⟩ happenings = some final)
    (complete : final.state.isComplete = true)
    {cell : Cell Value Error}
    (found : final.state.cells[index]? = some cell) :
    (final.state.dispatched ≤ index ∧ cell.isWaiting = true ∧
        final.state.collection.outcomes[index]? = some .notStarted) ∨
      index < final.state.dispatched ∧
        ∃ order ending, final.state.Gathered index order ending := by
  have gathers := World.gathers_of_run begins runs
  obtain ⟨_, _, item⟩ := (World.traces_of_run begins runs).item_of_present found
  have inside : index < final.state.collection.outcomes.size := by
    rw [gathers.size]
    exact (Array.getElem?_eq_some_iff.mp found).1
  have shown := Array.getElem?_eq_getElem inside
  rcases Nat.lt_or_ge index final.state.dispatched with dispatched | waiting
  · right
    refine ⟨dispatched, (gathers.outcome index _ shown).resolve_left ?_⟩
    intro missing
    rw [missing, ← Collection.lacks_eq_true_iff] at shown
    simp only [State.isComplete, Bool.and_eq_true, List.all_eq_true, List.mem_range] at complete
    have gathered := complete.2 index dispatched
    simp [shown] at gathered
  · left
    have waits := item.waits.mpr waiting
    refine ⟨waiting, waits, ?_⟩
    rcases gathers.outcome index _ shown with missing | ⟨order, ending, settled, _⟩
    · rw [shown, missing]
    · rw [found, Option.some.injEq] at settled
      rw [settled] at waits
      cases waits

/-- What the report of a complete batch shows at a place. -/
theorem World.outcome_of_isComplete
    (begins : State.begin? settings generators = some state)
    (runs : World.run settings ⟨raised, state⟩ happenings = some final)
    (complete : final.state.isComplete = true)
    {outcome : Outcome Value Error}
    (shown : (final.state.report settings).outcomes[index]? = some outcome) :
    final.state.dispatched ≤ index ∧ index < final.state.cells.size ∧ outcome = .notStarted ∨
      index < final.state.dispatched ∧ ∃ order ending,
        final.state.Gathered index order ending ∧ outcome = .ofEnding ending := by
  rw [State.report, Array.getElem?_toList] at shown
  have inside : index < final.state.cells.size := by
    rw [← (World.gathers_of_run begins runs).size]
    exact (Array.getElem?_eq_some_iff.mp shown).1
  rcases World.item_of_isComplete begins runs complete (Array.getElem?_eq_getElem inside) with
    ⟨waiting, _, missing⟩ | ⟨started, order, ending, gathered⟩
  · exact Or.inl ⟨waiting, inside, Option.some.inj (shown.symm.trans missing)⟩
  · exact Or.inr ⟨started, order, ending, gathered,
      Option.some.inj (shown.symm.trans gathered.arrived)⟩

/-- The outcomes of a complete batch are those that the attempts of its items
lead to. -/
theorem World.outcomes_of_isComplete
    (begins : State.begin? settings generators = some state)
    (runs : World.run settings ⟨raised, state⟩ happenings = some final)
    (complete : final.state.isComplete = true) :
    (final.state.report settings).outcomes =
      generators.mapIdx fun index generator =>
        .ofProgress (Retry.replay settings.policy settings.classifier generator
          (results index (actsOf happenings))) := by
  have traces := World.traces_of_run begins runs
  have gathers := World.gathers_of_run begins runs
  apply List.ext_getElem?
  intro index
  rw [List.getElem?_mapIdx]
  cases known : generators[index]? with
  | none =>
      simp only [State.report, Array.getElem?_toList, Option.map_none, Array.getElem?_eq_none_iff,
        gathers.size, traces.size]
      simpa using known
  | some generator =>
      obtain ⟨cell, found, item⟩ := traces.item index generator known
      simp only [State.report, Array.getElem?_toList, Option.map_some, ← item.progress]
      rcases World.item_of_isComplete begins runs complete found with
        ⟨_, waits, missing⟩ | ⟨_, order, ending, settled, arrived⟩
      · rw [missing]
        cases cell with
        | waiting => rfl
        | _ => cases waits
      · rw [found, Option.some.injEq] at settled
        rw [arrived, settled]
        rfl

omit [Retry.Retryable Error] in
/-- The report shows a failure where one has been gathered. -/
theorem Gathers.hasFailed_iff
    {state : State Value Error}
    (settings : Settings)
    (gathers : Gathers state) :
    (state.report settings).hasFailed index = true ↔
      ∃ order, state.GatheredFailure index order := by
  simp only [Report.hasFailed, State.report, Array.getElem?_toList, Option.any_eq_true]
  constructor
  · rintro ⟨outcome, found, fails⟩
    rcases gathers.outcome index outcome found with rfl | ⟨order, ending, settled, arrived⟩
    · cases fails
    · rw [found, Option.some.injEq] at arrived
      exact ⟨order, ending, ⟨settled, by rw [found, arrived]⟩, arrived ▸ fails⟩
  · rintro ⟨order, ending, gathered, fails⟩
    exact ⟨_, gathered.arrived, fails⟩

/-- The first failure of a report is that of the failed item that was counted
first. -/
theorem World.firstFailure_of_run
    (begins : State.begin? settings generators = some state)
    (runs : World.run settings ⟨raised, state⟩ happenings = some final) :
    (final.state.report settings).firstFailure =
      (rankings (actsOf happenings)).find? (final.state.report settings).hasFailed := by
  have gathers := World.gathers_of_run begins runs
  have traces := World.traces_of_run begins runs
  have place : ∀ {index order : Nat}, final.state.GatheredFailure index order →
      (rankings (actsOf happenings))[order]? = some index := by
    rintro index order ⟨ending, gathered, _⟩
    obtain ⟨_, _, item⟩ := traces.item_of_present gathered.settled
    exact (item.order order).mp rfl
  have reported : (final.state.report settings).firstFailure =
      final.state.collection.firstFailure.map Prod.fst := rfl
  cases kept : final.state.collection.firstFailure with
  | none =>
      rw [reported, kept, Option.map_none, eq_comm, List.find?_eq_none]
      intro index _ fails
      obtain ⟨order, failure⟩ := (gathers.hasFailed_iff settings).mp fails
      exact gathers.unfailed kept index order failure
  | some pair =>
      obtain ⟨index, order⟩ := pair
      obtain ⟨failure, least⟩ := gathers.first index order kept
      obtain ⟨inside, counted⟩ := List.getElem?_eq_some_iff.mp (place failure)
      rw [reported, kept, Option.map_some, eq_comm, List.find?_eq_some_iff_getElem]
      refine ⟨(gathers.hasFailed_iff settings).mpr ⟨order, failure⟩, order, inside, counted, ?_⟩
      intro earlier before
      rw [Bool.not_eq_true', ← Bool.not_eq_true, gathers.hasFailed_iff]
      rintro ⟨other, otherFailure⟩
      -- An item has one place only.
      have within := Nat.lt_trans before inside
      have same : earlier = other :=
        (List.getElem?_inj within traces.rankings_nodup).mp
          ((List.getElem?_eq_getElem within).trans (place otherFailure).symm)
      have := least _ other otherFailure
      omega

/-- Dispatch that ended before the last item did so for shutdown, or for a
failure of a fail-fast batch that has been gathered since. -/
theorem World.stopped_of_isComplete
    (begins : State.begin? settings generators = some state)
    (runs : World.run settings ⟨raised, state⟩ happenings = some final)
    (complete : final.state.isComplete = true)
    (left : final.state.dispatched < final.state.cells.size) :
    final.state.dispatcher = .stopped .shutdown ∨
      settings.mode = .failFast ∧ ∃ index order, final.state.GatheredFailure index order := by
  have stopped : final.state.stop.isSome = true := by
    simp only [State.isComplete, Bool.and_eq_true, State.dispatchOver, Bool.or_eq_true,
      decide_eq_true_eq] at complete
    exact complete.1.resolve_right (Nat.not_le.mpr left)
  cases stands : final.state.dispatcher with
  | idle | seeking | granted | cleared => simp [State.stop, stands] at stopped
  | stopped reason =>
      cases reason with
      | shutdown => exact Or.inl rfl
      | failure =>
          have directs := World.directs_of_run begins runs
          obtain ⟨failFast, index, cell, present, fails⟩ :=
            directs.halted.mp (directs.stopped stands)
          refine Or.inr ⟨failFast, index, ?_⟩
          rcases World.item_of_isComplete begins runs complete present with
            ⟨_, waits, _⟩ | ⟨_, order, ending, gathered⟩
          · cases cell with
            | waiting => cases fails
            | _ => cases waits
          · have settled := gathered.settled
            rw [present, Option.some.injEq] at settled
            rw [settled] at fails
            exact ⟨order, ending, gathered, fails⟩

/-- The report of a complete batch can be relied on. -/
theorem World.sound_of_isComplete
    (begins : State.begin? settings generators = some state)
    (runs : World.run settings ⟨raised, state⟩ happenings = some final)
    (complete : final.state.isComplete = true) :
    (final.state.report settings).Sound where
  unstarted := by
    intro member
    obtain ⟨index, found⟩ := List.mem_iff_getElem?.mp member
    have left : final.state.dispatched < final.state.cells.size := by
      rcases World.outcome_of_isComplete begins runs complete found with
        ⟨waiting, inside, _⟩ | ⟨_, _, ending, _, same⟩
      · exact Nat.lt_of_le_of_lt waiting inside
      · exact absurd same.symm (Outcome.ofEnding_ne_notStarted ending)
    rcases World.stopped_of_isComplete begins runs complete left with
      stands | ⟨failFast, failed, order, ending, gathered, fails⟩
    · left
      simp [State.report, State.stop, stands]
    · right
      exact ⟨failFast, .ofEnding ending,
        List.mem_of_getElem? ((Array.getElem?_toList ..).trans gathered.arrived), fails⟩
  cancelled := by
    intro cancelled
    have stopped := final.state.dispatcher_eq_of_cancelled cancelled
    have left := (World.directs_of_run begins runs).aims (by simp [stopped])
    rcases World.item_of_isComplete begins runs complete (Array.getElem?_eq_getElem left) with
      ⟨_, _, missing⟩ | ⟨dispatched, _⟩
    · exact List.mem_of_getElem? ((Array.getElem?_toList ..).trans missing)
    · exact absurd dispatched (Nat.lt_irrefl _)
  first := by
    intro index first
    rw [World.firstFailure_of_run begins runs] at first
    exact List.find?_some first
  unfailed := by
    intro none outcome member
    obtain ⟨index, found⟩ := List.mem_iff_getElem?.mp member
    have gathers := World.gathers_of_run begins runs
    have kept : final.state.collection.firstFailure = .none := by
      simpa [State.report] using none
    cases fails : outcome.isFailure with
    | false => rfl
    | true =>
        obtain ⟨order, failure⟩ := (gathers.hasFailed_iff settings).mp
          ((Option.any_eq_true _ _).mpr ⟨outcome, found, fails⟩)
        exact absurd failure (gathers.unfailed kept index order)

/-- No item of a batch is lost that asks for no more slots than there can be,
and so begins.  No schedule goes on for ever, and each can be carried on until
the batch is complete.  Then the report shows for every item the outcome that
the results of its attempts lead to, and tells why an item was not started; its
first failure is the failed item that was counted first; and the result follows
from the outcomes. -/
theorem every_item_is_accounted_for
    {generators : List Random.Generator}
    {happenings : List (Happening Value Error)}
    {final : World Value Error}
    (begins : State.begin? settings generators = some state)
    (runs : World.run settings ⟨raised, state⟩ happenings = some final) :
    (actsOf happenings).length ≤ generators.length * (2 * settings.policy.budget + 8) + 3 ∧
      (∃ (later : List (Act Value Error)) (complete : World Value Error),
        World.run settings final (later.map .act) = some complete ∧
          complete.state.isComplete = true) ∧
      (final.state.isComplete = true →
        (final.state.report settings).outcomes =
            (generators.mapIdx fun index generator =>
              .ofProgress (Retry.replay settings.policy settings.classifier generator
                (results index (actsOf happenings)))) ∧
          (final.state.report settings).firstFailure =
            (rankings (actsOf happenings)).find? (final.state.report settings).hasFailed ∧
          (final.state.report settings).Sound ∧ (final.state.report settings).Settles) := by
  refine ⟨World.length_actsOf_le_of_run begins runs, World.exists_complete_run begins runs, ?_⟩
  intro complete
  have sound := World.sound_of_isComplete begins runs complete
  exact ⟨World.outcomes_of_isComplete begins runs complete,
    World.firstFailure_of_run begins runs, sound, sound.settles⟩

/-- A fail-fast batch of three items in two slots: the second item crashes
while the first one is under way, and the third is never started. -/
theorem every_item_is_accounted_for_after_a_crash :
    let settings : Settings :=
      { concurrency := 2, mode := .failFast, policy := ⟨2, .none⟩, classifier := .standard,
        heedsShutdown := true }
    let generators := List.replicate 3 (Random.Generator.ofSeed 7)
    let start : State Nat Api.Error := .initial settings generators
    let happenings : List (Happening Nat Api.Error) :=
      [.act .look, .act .take, .act .check, .act .launch, .act .look, .act .take, .act .check,
        .act .launch, .act (.start 1), .act (.start 0), .act .look,
        .act (.finish 1 (.crashed "lost")), .act (.announce 1), .act (.rank 1),
        .act (.release 1), .act .take, .act (.finish 0 (.returned 5)), .act .check,
        .act (.announce 0), .act (.rank 0), .act (.release 0), .act (.gather 0),
        .act (.gather 1)]
    State.begin? settings generators = some start ∧
      ∃ final, World.run settings ⟨false, start⟩ happenings = some final ∧
        final.state.isComplete = true ∧ (final.state.report settings).Settles := by
  intro settings generators start happenings
  have begins : State.begin? settings generators = some start := rfl
  have runsOn : (World.run settings ⟨false, start⟩ happenings).any
      (fun final => final.state.isComplete) = true := by
    decide +kernel
  obtain ⟨final, runs, complete⟩ := (Option.any_eq_true _ _).mp runsOn
  obtain ⟨_, _, accounts⟩ := every_item_is_accounted_for begins runs
  exact ⟨begins, final, runs, complete, (accounts complete).2.2.2⟩

end Batch
end TenantLoad
