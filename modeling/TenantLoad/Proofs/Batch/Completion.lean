import TenantLoad.Proofs.Batch.Gathering
import TenantLoad.Proofs.Batch.Slots

/-!
# Every batch can be completed

An act is enabled as long as a batch is not complete, whatever the attempts
end with, and every act brings the batch closer to its end.  So no schedule
gets stuck, and each is complete after a number of acts that the items and the
budget of attempts bound.
-/

namespace TenantLoad
namespace Batch

variable {Value Error : Type}

/-! ## Every act counts -/

/-- The most acts that an item has before it. -/
def Cell.weight (budget : Nat) : Cell Value Error → Nat
  | .waiting _ => 2 * budget + 7
  | .dispatched _ => 2 * budget + 3
  | .attempting attempt _ => 2 * (budget - attempt) + 4
  | .resting attempt _ _ => 2 * (budget - attempt) + 5
  | .concluded _ => 3
  | .announced _ => 2
  | .ranked .. => 1
  | .settled .. => 0

/-- The most acts that a list of items has before it. -/
def Cell.totalWeight (budget : Nat) : List (Cell Value Error) → Nat
  | [] => 0
  | cell :: cells => cell.weight budget + totalWeight budget cells

/-- The most acts that the dispatcher has before it until it starts an item. -/
def Dispatcher.weight : Dispatcher → Nat
  | .idle => 3
  | .seeking => 2
  | .granted => 1
  | .cleared | .stopped _ => 0

/-- The number of outcomes that the collector lacks. -/
def Collection.missing (collection : Collection Value Error) : Nat :=
  collection.outcomes.countP fun outcome => !outcome.isStarted

/-- The most acts that a batch has before it. -/
def State.weight (settings : Settings) (state : State Value Error) : Nat :=
  Cell.totalWeight settings.policy.budget state.cells.toList + state.dispatcher.weight +
    state.collection.missing

/-- Moving one item of a list trades the acts it has before it. -/
theorem Cell.totalWeight_set
    {cells : List (Cell Value Error)}
    {index : Nat}
    {before : Cell Value Error}
    (budget : Nat)
    (after : Cell Value Error)
    (found : cells[index]? = some before) :
    totalWeight budget (cells.set index after) + before.weight budget =
      totalWeight budget cells + after.weight budget := by
  induction cells generalizing index with
  | nil => cases found
  | cons cell cells inductionHypothesis =>
      cases index with
      | zero =>
          cases found
          simp only [List.set_cons_zero, totalWeight]
          omega
      | succ index =>
          have present : cells[index]? = some before := by simpa using found
          have rest := inductionHypothesis present
          simp only [List.set_cons_succ, totalWeight]
          omega

theorem Cell.totalWeight_map_waiting
    (budget : Nat)
    (generators : List Random.Generator) :
    totalWeight budget (generators.map (waiting : _ → Cell Value Error)) =
      generators.length * (2 * budget + 7) := by
  induction generators with
  | nil => simp [totalWeight]
  | cons generator generators inductionHypothesis =>
      rw [List.map_cons, totalWeight, inductionHypothesis, List.length_cons, weight,
        Nat.add_mul, Nat.one_mul, Nat.add_comm]

variable {settings : Settings} {state next : State Value Error} {index : Nat}
  {before after : Cell Value Error}

/-- Moving an item trades the acts it has before it. -/
theorem State.weight_setCell
    (settings : Settings)
    (after : Cell Value Error)
    (found : state.cells[index]? = some before) :
    (state.setCell index after).weight settings + before.weight settings.policy.budget =
      state.weight settings + after.weight settings.policy.budget := by
  have listed : state.cells.toList[index]? = some before := by simpa using found
  have total := Cell.totalWeight_set settings.policy.budget after listed
  simp only [State.weight, State.setCell, Array.toList_setIfInBounds] at total ⊢
  omega

/-- An outcome that is gathered is no longer missing. -/
theorem Collection.missing_add
    {collection : Collection Value Error}
    (order : Nat)
    (ending : Retry.Ending Value Error)
    (lacking : collection.lacks index = true) :
    (collection.add index order (.ofEnding ending)).missing + 1 = collection.missing := by
  rw [lacks_eq_true_iff] at lacking
  have counted := countP_setIfInBounds (fun outcome : Outcome Value Error => !outcome.isStarted)
    (.ofEnding ending) lacking
  simp only [Outcome.isStarted_ofEnding, Bool.not_true, Bool.toNat_false] at counted
  exact counted

variable [Retry.Retryable Error] {raised : Bool} {act : Act Value Error}
  {acts : List (Act Value Error)}

/-- An attempt leaves fewer acts before its item. -/
theorem Cell.weight_afterAttempt_lt
    (settings : Settings)
    (attempt : Nat)
    (generator : Random.Generator)
    (result : Retry.Attempt Value Error) :
    (afterAttempt settings attempt generator result).weight settings.policy.budget <
      (attempting attempt generator : Cell Value Error).weight settings.policy.budget := by
  rcases afterAttempt_cases settings attempt generator result with
    ⟨ending, _, stands⟩ | ⟨delay, following, decision, stands⟩
  · rw [stands]
    simp only [weight]
    omega
  · rw [stands]
    have within := Retry.lt_budget_of_next_eq_backOff decision
    simp only [weight]
    omega

/-- Every act leaves fewer acts before the batch. -/
theorem Moves.weight_lt
    (moves : Moves settings raised state act next) :
    next.weight settings < state.weight settings := by
  cases moves with
  | refuse wanting heeds isRaised =>
      rcases wanting with ⟨idle, _⟩ | seeking
      · simp [State.weight, idle, Dispatcher.weight]
      · simp [State.weight, seeking, Dispatcher.weight]
  | seek idle left => simp [State.weight, idle, Dispatcher.weight]
  | take seeking positive => simp [State.weight, seeking, Dispatcher.weight]
  | halt granted halted => simp [State.weight, granted, Dispatcher.weight]
  | clear granted running => simp [State.weight, granted, Dispatcher.weight]
  | launch generator cleared found =>
      have moved := State.weight_setCell settings (.dispatched generator) found
      simp only [State.weight, State.setCell, cleared, Dispatcher.weight, Cell.weight] at moved ⊢
      omega
  | start index generator found =>
      have positive := settings.policy.one_le_budget
      have moved := State.weight_setCell settings (.attempting 1 generator) found
      simp only [Cell.weight] at moved
      omega
  | finish index attempt generator result found =>
      have fewer := Cell.weight_afterAttempt_lt settings attempt generator result
      have moved := State.weight_setCell settings
        (.afterAttempt settings attempt generator result) found
      omega
  | resume index attempt delay generator found =>
      have moved :=
        State.weight_setCell settings (.attempting attempt generator) found
      simp only [Cell.weight] at moved
      omega
  | announce index ending found =>
      have moved := State.weight_setCell settings (.announced ending) found
      simp only [State.weight, State.setCell, Cell.weight] at moved ⊢
      omega
  | rank index ending found =>
      have moved := State.weight_setCell settings
        (.ranked state.settledCount ending) found
      simp only [State.weight, State.setCell, Cell.weight] at moved ⊢
      omega
  | release index order ending found =>
      have moved := State.weight_setCell settings (.settled order ending) found
      simp only [State.weight, State.setCell, Cell.weight] at moved ⊢
      omega
  | gather index order ending found finished lacking =>
      have gathered := Collection.missing_add order ending lacking
      simp only [State.weight]
      omega

omit [Retry.Retryable Error] in
theorem State.weight_initial
    (generators : List Random.Generator) :
    (initial settings generators : State Value Error).weight settings =
      generators.length * (2 * settings.policy.budget + 8) + 3 := by
  simp only [weight, initial, Cell.totalWeight_map_waiting, Dispatcher.weight,
    Collection.missing, Collection.empty, Array.countP_replicate, Outcome.isStarted,
    Bool.not_false, if_true]
  rw [Nat.add_right_comm, ← Nat.mul_succ]

/-- A run has no more acts than there were before it. -/
theorem World.length_add_weight_le_of_run
    {world final : World Value Error}
    {happenings : List (Happening Value Error)}
    (runs : world.run settings happenings = some final) :
    (actsOf happenings).length + final.state.weight settings ≤ world.state.weight settings := by
  refine World.run_state_induction
    (motive := fun past current =>
      past.length + current.weight settings ≤ world.state.weight settings)
    (by simp) ?_ runs
  intro past raised current act next soFar moves
  have fewer := moves.weight_lt
  rw [List.length_append, List.length_singleton]
  omega

/-! ## Some act is always enabled -/

section Enabled

variable (answer : Nat → Nat → Retry.Attempt Value Error)

/-- The act that an item in a slot has before it; `answer` gives the results
of its attempts by their numbers. -/
def Cell.due? (index : Nat) : Cell Value Error → Option (Act Value Error)
  | .dispatched _ => some (.start index)
  | .attempting attempt _ => some (.finish index (answer index attempt))
  | .resting .. => some (.resume index)
  | .concluded _ => some (.announce index)
  | .announced _ => some (.rank index)
  | .ranked .. => some (.release index)
  | .waiting _ | .settled .. => none

/-- An item in a slot can always go on. -/
theorem State.isSome_act_of_holdsSlot
    (settings : Settings)
    (raised : Bool)
    {cell : Cell Value Error}
    (found : state.cells[index]? = some cell)
    (holds : cell.holdsSlot = true) :
    ∃ act, cell.due? answer index = some act ∧ (state.act settings raised act).isSome = true := by
  cases cell with
  | waiting | settled => cases holds
  | dispatched | attempting | resting | concluded | announced | ranked =>
      exact ⟨_, rfl, by
        simp [State.act, start, endAttempt, resume, announce, rank, release, found]⟩

/-- With a free slot the dispatcher can go on until dispatch is over. -/
theorem State.isSome_act_of_not_dispatchOver
    (settings : Settings)
    (raised : Bool)
    (positive : state.dispatcher = .seeking → 0 < state.free)
    (waits : state.dispatched < state.cells.size →
      ∃ generator, state.cells[state.dispatched]? = some (.waiting generator))
    (going : state.dispatchOver = false) :
    ∃ act, (∀ index result, act ≠ .finish index result) ∧
      (state.act settings raised act).isSome = true := by
  have left : state.dispatched < state.cells.size := by
    simp only [dispatchOver, Bool.or_eq_false_iff, decide_eq_false_iff_not, Nat.not_le] at going
    exact going.2
  cases stands : state.dispatcher with
  | idle => exact ⟨.look, by simp, by simp [State.act, look, stands, left]⟩
  | seeking => exact ⟨.take, by simp, by simp [State.act, take, stands, positive stands]⟩
  | granted =>
      refine ⟨.check, by simp, ?_⟩
      simp only [State.act, check, stands]
      split <;> rfl
  | cleared =>
      obtain ⟨generator, waiting⟩ := waits left
      exact ⟨.launch, by simp, by simp [State.act, launch, stands, waiting]⟩
  | stopped reason => simp [dispatchOver, stop, stands] at going

end Enabled

/-- No item holds a slot. -/
def State.Unheld (state : State Value Error) : Prop :=
  ∀ (index : Nat) (cell : Cell Value Error), state.cells[index]? = some cell →
    cell.holdsSlot = false

omit [Retry.Retryable Error] in
/-- The slots that no item holds are free for a dispatcher without one. -/
theorem State.Unheld.free_pos
    (unheld : state.Unheld)
    (balance : state.free + state.heldSlots = settings.slots)
    (without : state.dispatcher.holdsSlot = false) :
    0 < state.free := by
  have none : state.cells.countP Cell.holdsSlot = 0 := by
    rw [Array.countP_eq_zero]
    intro cell member
    obtain ⟨index, found⟩ := Array.mem_iff_getElem?.mp member
    simp [unheld index cell found]
  simp only [heldSlots, none, without, Settings.slots, Bool.toNat_false] at balance
  omega

variable {generators : List Random.Generator}

/-- The item that dispatch has come to is waiting. -/
theorem Traces.exists_waiting
    (traces : Traces settings generators acts state)
    (left : state.dispatched < state.cells.size) :
    ∃ generator, state.cells[state.dispatched]? = some (.waiting generator) := by
  have found := Array.getElem?_eq_getElem left
  obtain ⟨_, _, item⟩ := traces.item_of_present found
  have waits := item.waits.mpr (Nat.le_refl _)
  cases cell : state.cells[state.dispatched] with
  | waiting generator => exact ⟨generator, by rw [found, cell]⟩
  | _ => simp [cell, Cell.isWaiting] at waits

/-- When dispatch is over and no item holds a slot, an outcome that is missing
can be gathered. -/
theorem State.Unheld.isSome_gather
    (unheld : state.Unheld)
    (settings : Settings)
    (raised : Bool)
    (traces : Traces settings generators acts state)
    (within : state.dispatched ≤ state.cells.size)
    (finished : state.dispatchOver = true)
    (incomplete : state.isComplete = false) :
    ∃ index, (state.act settings raised (.gather index)).isSome = true := by
  simp only [State.isComplete, finished, Bool.true_and, List.all_eq_false, List.mem_range,
    Bool.not_eq_true, Bool.not_eq_false'] at incomplete
  obtain ⟨index, dispatched, lacking⟩ := incomplete
  have found := Array.getElem?_eq_getElem (Nat.lt_of_lt_of_le dispatched within)
  obtain ⟨_, _, item⟩ := traces.item_of_present found
  cases cell : state.cells[index] with
  | settled order ending =>
      rw [cell] at found
      exact ⟨index, by simp [State.act, State.gather, found, finished, lacking]⟩
  | waiting generator =>
      have waits := item.waits.mp (by rw [cell]; rfl)
      omega
  | _ =>
      have free := unheld index _ found
      simp [cell, Cell.holdsSlot] at free

variable {happenings : List (Happening Value Error)} {final : World Value Error}

/-- In every incomplete batch some act is enabled, and where it is the end of
an attempt the result is up to the attempt. -/
theorem World.exists_act_of_not_isComplete
    (answer : Nat → Nat → Retry.Attempt Value Error)
    (begins : State.begin? settings generators = some state)
    (runs : World.run settings ⟨raised, state⟩ happenings = some final)
    (incomplete : final.state.isComplete = false) :
    ∃ act, (final.state.act settings final.raised act).isSome = true ∧
      ∀ index result, act = .finish index result →
        result = answer index ((results index (actsOf happenings)).length + 1) := by
  have traces := World.traces_of_run begins runs
  by_cases unheld : final.state.Unheld
  · cases finished : final.state.dispatchOver with
    | true =>
        have within := (World.directs_of_run begins runs).within
        obtain ⟨index, enabled⟩ :=
          unheld.isSome_gather settings final.raised traces within finished incomplete
        exact ⟨.gather index, enabled, by simp⟩
    | false =>
        have balance := World.free_add_heldSlots_of_run begins runs
        obtain ⟨act, noFinish, enabled⟩ :=
          State.isSome_act_of_not_dispatchOver settings final.raised
            (fun seeking => unheld.free_pos balance (by rw [seeking]; rfl))
            traces.exists_waiting finished
        refine ⟨act, enabled, ?_⟩
        intro index result finishes
        exact absurd finishes (noFinish index result)
  · simp only [State.Unheld, not_forall, Bool.not_eq_false] at unheld
    obtain ⟨index, cell, found, holds⟩ := unheld
    obtain ⟨act, due, enabled⟩ :=
      State.isSome_act_of_holdsSlot answer settings final.raised found holds
    refine ⟨act, enabled, ?_⟩
    rintro other result rfl
    cases cell with
    | attempting attempt generator =>
        obtain ⟨rfl, rfl⟩ : index = other ∧ answer index attempt = result := by
          simpa [Cell.due?] using due
        obtain ⟨_, _, item⟩ := traces.item_of_present found
        rw [Retry.attempt_eq_of_replay_eq_trying item.progress.symm]
    | waiting | dispatched | resting | concluded | announced | ranked | settled =>
        simp [Cell.due?] at due

/-- Every run can be carried on until the batch is complete, whatever the
attempts to come end with. -/
theorem World.exists_completion
    {motive : List (Act Value Error) → Prop}
    (answer : Nat → Nat → Retry.Attempt Value Error)
    (step : ∀ past act, motive past →
      (∀ index result, act = .finish index result →
        result = answer index ((results index past).length + 1)) →
      motive (past ++ [act]))
    (begins : State.begin? settings generators = some state)
    (runs : World.run settings ⟨raised, state⟩ happenings = some final)
    (start : motive (actsOf happenings)) :
    ∃ (later : List (Act Value Error)) (complete : World Value Error),
      World.run settings final (later.map .act) = some complete ∧
        complete.state.isComplete = true ∧ motive (actsOf happenings ++ later) := by
  -- The acts before the batch become fewer and fewer.
  induction weighs : final.state.weight settings using Nat.strongRecOn
    generalizing happenings final with
  | ind weight inductionHypothesis =>
      cases complete : final.state.isComplete with
      | true => exact ⟨[], final, rfl, complete, by simpa using start⟩
      | false =>
          obtain ⟨act, enabled, answered⟩ :=
            World.exists_act_of_not_isComplete answer begins runs complete
          obtain ⟨next, acts⟩ := Option.isSome_iff_exists.mp enabled
          have steps : final.step settings (.act act) = some { final with state := next } := by
            simp [World.step, acts]
          have carriedOn : World.run settings ⟨raised, state⟩ (happenings ++ [.act act]) =
              some { final with state := next } :=
            run_append_eq_some_iff.mpr ⟨final, runs, by rw [run_singleton, steps]⟩
          have fewer := (Moves.of_act acts).weight_lt
          obtain ⟨later, last, laterRuns, isComplete, kept⟩ :=
            inductionHypothesis _ (weighs ▸ fewer) carriedOn
              (by simpa using step _ act start answered) rfl
          refine ⟨act :: later, last, ?_, isComplete, by simpa using kept⟩
          rw [List.map_cons, ← List.singleton_append]
          exact run_append_eq_some_iff.mpr ⟨_, by rw [run_singleton, steps], laterRuns⟩

/-- No schedule gets stuck. -/
theorem World.exists_complete_run
    (begins : State.begin? settings generators = some state)
    (runs : World.run settings ⟨raised, state⟩ happenings = some final) :
    ∃ (later : List (Act Value Error)) (complete : World Value Error),
      World.run settings final (later.map .act) = some complete ∧
        complete.state.isComplete = true := by
  obtain ⟨later, complete, laterRuns, isComplete, _⟩ :=
    World.exists_completion (motive := fun _ => True) (fun _ _ => .crashed "")
      (fun _ _ _ _ => trivial) begins runs trivial
  exact ⟨later, complete, laterRuns, isComplete⟩

/-- No schedule goes on for ever. -/
theorem World.length_actsOf_le_of_run
    (begins : State.begin? settings generators = some state)
    (runs : World.run settings ⟨raised, state⟩ happenings = some final) :
    (actsOf happenings).length ≤
      generators.length * (2 * settings.policy.budget + 8) + 3 := by
  have bounded := World.length_add_weight_le_of_run runs
  obtain rfl := State.eq_initial_of_begin?_eq_some begins
  rw [State.weight_initial] at bounded
  omega

end Batch
end TenantLoad
