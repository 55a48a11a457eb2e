import TenantLoad.Proofs.Batch.History

/-!
# Where dispatch ends

The dispatcher stays within the items and ends dispatch early only before an
item that is left.  The halt is raised exactly if the batch is fail-fast and
some item has announced a failure, and dispatch ends for a failure only once
it is raised.
-/

namespace TenantLoad
namespace Batch

variable {Value Error : Type}

namespace Cell

/-- The ending of the item, once it has been announced. -/
def announced? : Cell Value Error → Option (Retry.Ending Value Error)
  | .announced ending | .ranked _ ending | .settled _ ending => some ending
  | _ => none

/-- Whether the item has announced a failure. -/
def hasFailed (cell : Cell Value Error) : Bool :=
  cell.announced?.any fun ending => (Outcome.ofEnding ending).isFailure

end Cell

variable [Retry.Retryable Error] {settings : Settings} {raised : Bool}
  {state next : State Value Error} {act : Act Value Error} {index : Nat}
  {before after : Cell Value Error}

/-- An announced ending stays. -/
theorem CellMoves.announced?_eq
    (moves : CellMoves settings state index act before after)
    {ending : Retry.Ending Value Error}
    (announced : before.announced? = some ending) :
    after.announced? = some ending := by
  cases moves with
  | keep => exact announced
  | rank | release => exact announced
  | launch | start | finish | resume | announce => simp [Cell.announced?] at announced

/-- An item announces its ending by the act for it alone. -/
theorem CellMoves.announced?_before
    (moves : CellMoves settings state index act before after)
    {ending : Retry.Ending Value Error}
    (announced : after.announced? = some ending) :
    before.announced? = some ending ∨
      act = .announce index ∧ before = .concluded ending := by
  cases moves with
  | keep | rank | release => exact Or.inl announced
  | announce other =>
      simp only [Cell.announced?, Option.some.injEq] at announced
      subst announced
      exact Or.inr ⟨rfl, rfl⟩
  | finish attempt generator result =>
      rcases Cell.afterAttempt_cases settings attempt generator result with
        ⟨_, _, stands⟩ | ⟨_, _, _, stands⟩ <;>
      · rw [stands] at announced
        simp [Cell.announced?] at announced
  | launch | start | resume => simp [Cell.announced?] at announced

/-- Some item has announced a failure. -/
def State.HasFailure (state : State Value Error) : Prop :=
  ∃ (index : Nat) (cell : Cell Value Error),
    state.cells[index]? = some cell ∧ cell.hasFailed = true

/-- An act lets a failed item announce its ending. -/
def State.Announces (state : State Value Error) (act : Act Value Error) : Prop :=
  ∃ index ending, act = .announce index ∧ state.cells[index]? = some (.concluded ending) ∧
    (Outcome.ofEnding ending).isFailure = true

/-- Announced failures stay, and an act adds at most the one that it
announces. -/
theorem Moves.hasFailure_iff
    (moves : Moves settings raised state act next) :
    next.HasFailure ↔ state.HasFailure ∨ state.Announces act := by
  constructor
  · rintro ⟨index, after, present, failed⟩
    obtain ⟨before, found, cellMoves⟩ := moves.cell_before present
    obtain ⟨ending, announced, fails⟩ := (Option.any_eq_true _ _).mp failed
    rcases cellMoves.announced?_before announced with earlier | ⟨announces, concluded⟩
    · exact Or.inl ⟨index, before, found, (Option.any_eq_true _ _).mpr ⟨ending, earlier, fails⟩⟩
    · rw [concluded] at found
      exact Or.inr ⟨index, ending, announces, found, fails⟩
  · rintro (⟨index, before, found, failed⟩ | ⟨index, ending, rfl, found, fails⟩)
    · obtain ⟨after, present, cellMoves⟩ := moves.cell found
      obtain ⟨ending, announced, fails⟩ := (Option.any_eq_true _ _).mp failed
      exact ⟨index, after, present,
        (Option.any_eq_true _ _).mpr ⟨ending, cellMoves.announced?_eq announced, fails⟩⟩
    · obtain ⟨after, present, cellMoves⟩ := moves.cell found
      cases cellMoves with
      | keep cell other => exact absurd rfl other
      | announce => exact ⟨index, _, present, (Option.any_eq_true _ _).mpr ⟨ending, rfl, fails⟩⟩

/-- The halt stays, and in a fail-fast batch an announced failure raises it. -/
theorem Moves.halted_eq_true_iff
    (moves : Moves settings raised state act next) :
    next.halted = true ↔
      state.halted = true ∨ settings.mode = .failFast ∧ state.Announces act := by
  cases moves with
  | announce index ending found =>
      have announces : state.Announces (.announce index) ↔
          (Outcome.ofEnding ending).isFailure = true := by
        constructor
        · rintro ⟨other, announced, same, concluded, fails⟩
          cases same
          rw [found] at concluded
          cases concluded
          exact fails
        · intro fails
          exact ⟨index, ending, rfl, found, fails⟩
      simp [announces, and_comm]
  | _ => simp [State.Announces, State.setCell]

/-- Where the dispatcher of a batch stands. -/
structure Directs (settings : Settings) (state : State Value Error) : Prop where
  /-- It does not pass the last item. -/
  within : state.dispatched ≤ state.cells.size
  /-- It has an item before it whenever it has begun to dispatch one. -/
  aims : state.dispatcher ≠ .idle → state.dispatched < state.cells.size
  /-- The halt is that of an announced failure. -/
  halted : state.halted = true ↔ settings.mode = .failFast ∧ state.HasFailure
  /-- It stops for a failure only after the halt. -/
  stopped : state.dispatcher = .stopped .failure → state.halted = true

namespace Directs

/-- One act keeps the dispatcher where it belongs. -/
theorem step
    (directs : Directs settings state)
    (moves : Moves settings raised state act next) :
    Directs settings next where
  within := by
    have within := directs.within
    rw [moves.cells_size, moves.dispatched_eq]
    cases moves with
    | launch generator cleared found => exact (Array.getElem?_eq_some_iff.mp found).1
    | _ => exact within
  aims := by
    intro busy
    rw [moves.cells_size, moves.dispatched_eq]
    cases moves with
    | refuse wanting heeds isRaised =>
        rcases wanting with ⟨_, left⟩ | seeking
        · exact left
        · exact directs.aims (by simp [seeking])
    | seek idle left => exact left
    | take seeking positive => exact directs.aims (by simp [seeking])
    | halt granted halted => exact directs.aims (by simp [granted])
    | clear granted running => exact directs.aims (by simp [granted])
    | launch => exact absurd rfl busy
    | start | finish | resume | announce | rank | release | gather => exact directs.aims busy
  halted := by
    rw [moves.halted_eq_true_iff, moves.hasFailure_iff, directs.halted, ← and_or_left]
  stopped := by
    intro stopped
    rw [moves.halted_eq_true_iff]
    left
    cases moves with
    | refuse | seek | take | clear | launch => cases stopped
    | halt granted halted => exact halted
    | start | finish | resume | announce | rank | release | gather =>
        exact directs.stopped stopped

omit [Retry.Retryable Error] in
theorem initial
    (settings : Settings)
    (generators : List Random.Generator) :
    Directs settings (.initial settings generators : State Value Error) where
  within := Nat.zero_le _
  aims := by simp [State.initial]
  halted := by
    constructor
    · intro halted
      cases halted
    · rintro ⟨_, index, cell, present, failed⟩
      obtain ⟨generator, rfl⟩ := State.eq_waiting_of_initial present
      cases failed
  stopped := by simp [State.initial]

end Directs

namespace World

variable {generators : List Random.Generator} {happenings : List (Happening Value Error)}
  {final : World Value Error}

/-- Every run keeps the dispatcher where it belongs. -/
theorem directs_of_run
    (begins : State.begin? settings generators = some state)
    (runs : World.run settings ⟨raised, state⟩ happenings = some final) :
    Directs settings final.state := by
  obtain rfl := State.eq_initial_of_begin?_eq_some begins
  exact run_state_induction (motive := fun _ current => Directs settings current)
    (Directs.initial settings generators)
    (fun _ _ _ _ _ soFar moves => soFar.step moves) runs

/-- Dispatch stops for shutdown only where the dispatcher heeds a raised
signal. -/
theorem raised_of_run_of_stopped
    (begins : State.begin? settings generators = some state)
    (runs : World.run settings ⟨raised, state⟩ happenings = some final)
    (stopped : final.state.dispatcher = .stopped .shutdown) :
    settings.heedsShutdown = true ∧ final.raised = true := by
  obtain rfl := State.eq_initial_of_begin?_eq_some begins
  refine run_induction
    (motive := fun _ current => current.state.dispatcher = .stopped .shutdown →
      settings.heedsShutdown = true ∧ current.raised = true)
    ?_ ?_ ?_ runs stopped
  · intro atOnce
    cases atOnce
  · intro _ current soFar stopped
    exact ⟨(soFar stopped).1, rfl⟩
  · intro _ current act next soFar moves stopped
    cases moves with
    | refuse wanting heeds isRaised => exact ⟨heeds, isRaised⟩
    | seek | take | halt | clear | launch => cases stopped
    | start | finish | resume | announce | rank | release | gather => exact soFar stopped

/-- The signal is raised in a run only if it was at first or is on the way. -/
theorem raised_of_run
    {world : World Value Error}
    (runs : world.run settings happenings = some final)
    (isRaised : final.raised = true) :
    world.raised = true ∨ .raise ∈ happenings := by
  induction happenings using List.reverseRecOn generalizing final with
  | nil =>
      cases runs
      exact Or.inl isRaised
  | append_singleton past happening inductionHypothesis =>
      obtain ⟨current, before, last⟩ := run_append_eq_some_iff.mp runs
      rw [run_singleton] at last
      cases happening with
      | raise => exact Or.inr (by simp)
      | act happened =>
          simp only [step, Option.map_eq_some_iff] at last
          obtain ⟨next, _, rfl⟩ := last
          rcases inductionHypothesis before isRaised with atFirst | earlier
          · exact Or.inl atFirst
          · exact Or.inr (by simp [earlier])

end World
end Batch
end TenantLoad
