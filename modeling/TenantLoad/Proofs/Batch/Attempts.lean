import TenantLoad.Proofs.Batch.Courses
import TenantLoad.Proofs.Batch.Result
import TenantLoad.Proofs.Batch.Turns

/-!
# Attempts under way

An item makes its attempts in its slot, so no more attempts are under way than
there are slots.  The numbers of the attempts follow the results so far.
-/

namespace TenantLoad
namespace Batch

variable {Value Error : Type}

namespace Cell

/-- Whether an attempt of the item is under way. -/
def isAttempting : Cell Value Error → Bool
  | .attempting .. => true
  | _ => false

theorem holdsSlot_of_isAttempting
    (cell : Cell Value Error)
    (attempting : cell.isAttempting = true) :
    cell.holdsSlot = true := by
  cases cell <;> first | rfl | cases attempting

variable [Retry.Retryable Error] (settings : Settings) (attempt : Nat)
  (generator : Random.Generator) (result : Retry.Attempt Value Error)

@[simp] theorem isAttempting_afterAttempt :
    (afterAttempt settings attempt generator result).isAttempting = false := by
  rcases afterAttempt_cases settings attempt generator result with
    ⟨_, _, stands⟩ | ⟨_, _, _, stands⟩ <;> rw [stands] <;> rfl

end Cell

/-- The number of attempts under way. -/
def State.attempting (state : State Value Error) : Nat := state.cells.countP Cell.isAttempting

theorem State.attempting_le_heldSlots (state : State Value Error) :
    state.attempting ≤ state.heldSlots := by
  refine Nat.le_trans ?_ (Nat.le_add_right _ _)
  exact Array.countP_mono_left fun cell _ => cell.holdsSlot_of_isAttempting

theorem State.attempting_setCell
    {state : State Value Error}
    {index : Nat}
    {before : Cell Value Error}
    (after : Cell Value Error)
    (found : state.cells[index]? = some before) :
    (state.setCell index after).attempting + before.isAttempting.toNat =
      state.attempting + after.isAttempting.toNat :=
  countP_setIfInBounds Cell.isAttempting after found

/-- No attempt is under way at first. -/
theorem State.attempting_initial
    (settings : Settings)
    (generators : List Random.Generator) :
    (initial settings generators : State Value Error).attempting = 0 := by
  refine Array.countP_eq_zero.mpr ?_
  intro cell member
  obtain ⟨index, found⟩ := Array.mem_iff_getElem?.mp member
  obtain ⟨generator, rfl⟩ := eq_waiting_of_initial found
  simp [Cell.isAttempting]

variable [Retry.Retryable Error] {settings : Settings} {raised : Bool}
  {state next : State Value Error} {act : Act Value Error} {index : Nat}
  {generators : List Random.Generator} {happenings : List (Happening Value Error)}
  {final : World Value Error}

/-- An act that neither begins nor ends an attempt leaves those under way. -/
theorem Moves.attempting_of_isQuiet
    (moves : Moves settings raised state act next)
    (quiet : act.isQuiet = true) :
    next.attempting = state.attempting := by
  cases moves with
  | refuse | seek | take | halt | clear | gather => rfl
  | start | finish | resume => cases quiet
  | launch generator cleared found => exact State.attempting_setCell (.dispatched generator) found
  | announce index ending found => exact State.attempting_setCell (.announced ending) found
  | rank index ending found =>
      exact State.attempting_setCell (.ranked state.settledCount ending) found
  | release index order ending found =>
      exact State.attempting_setCell (.settled order ending) found

theorem CellMoves.isAttempting_of_isQuiet
    {before after : Cell Value Error}
    (moves : CellMoves settings state index act before after)
    (quiet : act.isQuiet = true) :
    after.isAttempting = before.isAttempting := by
  cases moves with
  | start | finish | resume => cases quiet
  | keep | launch | announce | rank | release => rfl

omit [Retry.Retryable Error] in
theorem Act.result?_of_isQuiet
    (quiet : act.isQuiet = true)
    (index : Nat) :
    act.result? index = none := by
  cases act <;> first | rfl | cases quiet

/-- No more attempts are under way than there are slots. -/
theorem World.attempting_le_slots_of_run
    (begins : State.begin? settings generators = some state)
    (runs : World.run settings ⟨raised, state⟩ happenings = some final) :
    final.state.attempting ≤ settings.slots := by
  have balance := World.free_add_heldSlots_of_run begins runs
  have := final.state.attempting_le_heldSlots
  omega

/-- The number of an attempt that is about to begin or under way follows the
results so far. -/
theorem World.attempt_eq_of_run
    {cell : Cell Value Error}
    {attempt : Nat}
    {generator : Random.Generator}
    (begins : State.begin? settings generators = some state)
    (runs : World.run settings ⟨raised, state⟩ happenings = some final)
    (present : final.state.cells[index]? = some cell)
    (stands : cell.progress = .trying attempt generator) :
    attempt = (results index (actsOf happenings)).length + 1 := by
  obtain ⟨_, _, item⟩ := (World.traces_of_run begins runs).item_of_present present
  exact Retry.attempt_eq_of_replay_eq_trying (item.progress.symm.trans stands)

/-! ## Attempts begun -/

/-- Whether an act begins an attempt of an item. -/
def Act.begins (index : Nat) : Act Value Error → Bool
  | .start other | .resume other => other == index
  | _ => false

omit [Retry.Retryable Error] in
theorem Act.begins_eq_false
    {following : Nat}
    (other : act.mover? following ≠ some index) :
    act.begins index = false := by
  cases act <;> simp_all [mover?, begins]

/-- The attempts of an item that have begun by an act are those that have ended
and the one under way. -/
theorem CellMoves.countP_begins_eq
    {before after : Cell Value Error}
    {acts : List (Act Value Error)}
    (moves : CellMoves settings state index act before after)
    (counted : acts.countP (Act.begins index) =
      (results index acts).length + before.isAttempting.toNat) :
    (acts ++ [act]).countP (Act.begins index) =
      (results index (acts ++ [act])).length + after.isAttempting.toNat := by
  rw [List.countP_append, List.countP_singleton, results_concat, List.length_append, counted]
  cases moves with
  | keep cell other => simp [Act.begins_eq_false other, Act.result?_eq_none other]
  | finish attempt generator result =>
      rw [Cell.isAttempting_afterAttempt]
      simp [Act.begins, Act.result?, Cell.isAttempting]
  | launch | start | resume | announce | rank | release =>
      simp [Act.begins, Act.result?, Cell.isAttempting]

/-- An item begins no more attempts than its budget. -/
theorem World.countP_begins_le_budget
    {cell : Cell Value Error}
    (begins : State.begin? settings generators = some state)
    (runs : World.run settings ⟨raised, state⟩ happenings = some final)
    (present : final.state.cells[index]? = some cell) :
    (actsOf happenings).countP (Act.begins index) ≤ settings.policy.budget := by
  obtain ⟨generator, known, _⟩ := (World.traces_of_run begins runs).item_of_present present
  have course := World.courses_of_run begins runs index generator cell known present
  obtain rfl := State.eq_initial_of_begin?_eq_some begins
  have counted := World.run_state_induction
    (motive := fun acts current => ∀ cell, current.cells[index]? = some cell →
      acts.countP (Act.begins index) = (results index acts).length + cell.isAttempting.toNat)
    (by
      intro cell found
      obtain ⟨_, rfl⟩ := State.eq_waiting_of_initial found
      rfl)
    (by
      intro past raised current act next soFar moves after found
      obtain ⟨before, earlier, cellMoves⟩ := moves.cell_before found
      exact cellMoves.countP_begins_eq (soFar before earlier))
    runs cell present
  rw [counted]
  cases cell with
  | waiting | dispatched | attempting | resting =>
      have within := course.number_le_budget rfl
      have numbered := course.number_eq
      exact Nat.le_trans (Nat.add_le_add_left (Bool.toNat_le _) _) (by omega)
  | concluded | announced | ranked | settled => exact course.length_le_budget_of_ended

/-! ## Complete batches -/

/-- In a complete batch no attempt is under way. -/
theorem World.isAttempting_eq_false_of_isComplete
    {cell : Cell Value Error}
    (begins : State.begin? settings generators = some state)
    (runs : World.run settings ⟨raised, state⟩ happenings = some final)
    (complete : final.state.isComplete = true)
    (found : final.state.cells[index]? = some cell) :
    cell.isAttempting = false := by
  rcases World.item_of_isComplete begins runs complete found with
    ⟨_, waits, _⟩ | ⟨_, order, ending, settled, _⟩
  · cases cell <;> first | rfl | cases waits
  · rw [found, Option.some.injEq] at settled
    rw [settled]
    rfl

theorem World.attempting_eq_zero_of_isComplete
    (begins : State.begin? settings generators = some state)
    (runs : World.run settings ⟨raised, state⟩ happenings = some final)
    (complete : final.state.isComplete = true) :
    final.state.attempting = 0 := by
  refine Array.countP_eq_zero.mpr ?_
  intro cell member
  obtain ⟨index, found⟩ := Array.mem_iff_getElem?.mp member
  simp [World.isAttempting_eq_false_of_isComplete begins runs complete found]

/-- In a complete batch nothing is left to gather. -/
theorem World.gatherAll_eq_of_isComplete
    (begins : State.begin? settings generators = some state)
    (runs : World.run settings ⟨raised, state⟩ happenings = some final)
    (complete : final.state.isComplete = true) :
    final.state.gatherAll = final.state := by
  have gathered : ∀ index, final.state.gather index = none := by
    intro index
    unfold State.gather
    split
    · rename_i order ending found
      rcases World.item_of_isComplete begins runs complete found with
        ⟨_, waits, _⟩ | ⟨_, _, other, gathered⟩
      · cases waits
      · have arrived : final.state.collection.lacks index = false := by
          rw [Bool.eq_false_iff, ne_eq, Collection.lacks_eq_true_iff, gathered.arrived]
          simpa using Outcome.ofEnding_ne_notStarted other
        simp [arrived]
    · rfl
  have unchanged : ∀ indices : List Nat,
      indices.foldl (fun state index => (state.gather index).getD state) final.state =
        final.state := by
    intro indices
    induction indices with
    | nil => rfl
    | cons index indices inductionHypothesis =>
        rw [List.foldl_cons, gathered, Option.getD_none, inductionHypothesis]
  exact unchanged _

/-- The attempts that the outcome of an item stands for: none where it was not
started, and else the course of its loop to its ending. -/
inductive Sums (settings : Settings) (generator : Random.Generator) :
    List (Retry.Attempt Value Error) → Outcome Value Error → Prop
  | notStarted : Sums settings generator [] .notStarted
  | ended
      {results : List (Retry.Attempt Value Error)}
      {ending : Retry.Ending Value Error}
      (course :
        Retry.Course settings.policy settings.classifier generator results (.ended ending)) :
      Sums settings generator results (.ofEnding ending)

omit [Retry.Retryable Error] in
theorem Outcome.isSuccess_ofEnding
    (ending : Retry.Ending Value Error) :
    (ofEnding ending).isSuccess = ending.isSuccess := by
  cases ending <;> rfl

/-- The number of attempts that an outcome tells of. -/
def Outcome.attempts : Outcome Value Error → Nat
  | .succeeded _ attempts => attempts
  | .failed failure => failure.attempts
  | .notStarted => 0

namespace Sums

variable {generator : Random.Generator} {results : List (Retry.Attempt Value Error)}
  {outcome : Outcome Value Error}

/-- An outcome tells of all attempts where none crashed. -/
theorem length_eq
    (sums : Sums settings generator results outcome)
    (uncrashed : ∀ result ∈ results, result.isCrashed = false)
    (draws : ∀ generator, (settings.policy.window.draw generator).isSome = true) :
    results.length = outcome.attempts := by
  cases sums with
  | notStarted => rfl
  | ended course =>
      obtain ⟨earlier, last, current, split, _, settles⟩ := course.last_of_ended
      cases settles with
      | returned | fatal | exhausted => rfl
      | emptyWindow error verdict left empty =>
          have drawn := draws current
          rw [empty] at drawn
          cases drawn
      | crashed message =>
          have survived := uncrashed (.crashed message) (by simp [split])
          cases survived

/-- One attempt of an item that succeeded returned a value, and none of any
other one. -/
theorem countP_isReturned
    (sums : Sums settings generator results outcome) :
    results.countP Retry.Attempt.isReturned = outcome.isSuccess.toNat := by
  cases sums with
  | notStarted => rfl
  | ended course =>
      rw [course.countP_isReturned, Outcome.isSuccess_ofEnding]

/-- Only the last attempt of an item can have returned a value. -/
theorem not_returned_of_mem_dropLast
    (sums : Sums settings generator results outcome) :
    ∀ result ∈ results.dropLast, result.isReturned = false := by
  cases sums with
  | notStarted => simp
  | ended course =>
      obtain ⟨earlier, last, rfl, failed, _⟩ := course.returned_of_ended
      rwa [List.dropLast_concat]

/-- An item that was never started has made no attempt. -/
theorem eq_nil_of_notStarted
    (sums : Sums settings generator results outcome)
    (unstarted : outcome = .notStarted) :
    results = [] := by
  cases sums with
  | notStarted => rfl
  | ended => exact absurd unstarted (Outcome.ofEnding_ne_notStarted _)

/-- An item that was started and whose attempts reach a value succeeded. -/
theorem isSuccess_of_reaches
    {script : Nat → Retry.Attempt Value Error}
    (sums : Sums settings generator results outcome)
    (reaches : Retry.Reaches settings.policy settings.classifier script)
    (obeys : ∀ (place : Nat) (within : place < results.length),
      results[place] = script (place + 1))
    (started : outcome.isStarted = true) :
    outcome.isSuccess = true := by
  cases sums with
  | notStarted => cases started
  | ended course =>
      rw [Outcome.isSuccess_ofEnding]
      exact course.isSuccess_of_reaches reaches obeys

end Sums

/-- The outcomes of a complete batch stand for all attempts of its items. -/
theorem World.sums_of_isComplete
    {outcome : Outcome Value Error}
    (begins : State.begin? settings generators = some state)
    (runs : World.run settings ⟨raised, state⟩ happenings = some final)
    (complete : final.state.isComplete = true)
    (shown : (final.state.report settings).outcomes[index]? = some outcome) :
    ∃ generator, generators[index]? = some generator ∧
      Sums settings generator (results index (actsOf happenings)) outcome := by
  have courses := World.courses_of_run begins runs
  rcases World.outcome_of_isComplete begins runs complete shown with
    ⟨waiting, inside, rfl⟩ | ⟨_, order, ending, gathered, rfl⟩
  · have found := Array.getElem?_eq_getElem inside
    obtain ⟨generator, known, item⟩ := (World.traces_of_run begins runs).item_of_present found
    have waits := item.waits.mpr waiting
    refine ⟨generator, known, ?_⟩
    cases cell : final.state.cells[index] with
    | waiting current =>
        rw [cell] at found
        have first := World.attempt_eq_of_run begins runs found rfl
        have none : results index (actsOf happenings) = [] :=
          List.length_eq_zero_iff.mp (by omega)
        rw [none]
        exact .notStarted
    | _ =>
        rw [cell] at waits
        cases waits
  · obtain ⟨generator, known, _⟩ :=
      (World.traces_of_run begins runs).item_of_present gathered.settled
    exact ⟨generator, known, .ended (courses index generator _ known gathered.settled)⟩

end Batch
end TenantLoad
