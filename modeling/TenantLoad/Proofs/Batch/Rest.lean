import TenantLoad.Proofs.Batch.OneThread

/-!
# Batches at rest

Between two events every item that has been dispatched is under way or has
settled.  So the batch is over exactly if dispatch is over and nothing is under
way, and where it is neither over nor able to dispatch some item is under way.
-/

namespace TenantLoad
namespace Batch

variable {Value Error : Type}

/-- Whether dispatch is over does not depend on where an item is. -/
theorem State.dispatchOver_setCell
    (state : State Value Error)
    (index : Nat)
    (cell : Cell Value Error) :
    (state.setCell index cell).dispatchOver = state.dispatchOver := by
  simp only [dispatchOver, setCell_cells, Array.size_setIfInBounds]
  rfl

/-- Nor does whether the dispatcher can move. -/
theorem State.canDispatch_setCell
    (settings : Settings)
    (raised : Bool)
    (state : State Value Error)
    (index : Nat)
    (cell : Cell Value Error) :
    (state.setCell index cell).canDispatch settings raised = state.canDispatch settings raised := by
  simp only [canDispatch, dispatchOver_setCell]
  rfl

/-- Nor does whether the batch has ended. -/
theorem State.isOver_setCell
    (state : State Value Error)
    (index : Nat)
    (cell : Cell Value Error) :
    (state.setCell index cell).isOver = state.isOver := by
  simp only [isOver, dispatchOver_setCell]
  rfl

variable [Retry.Retryable Error] {settings : Settings} {raised : Bool}
  {generators : List Random.Generator} {acts : List (Act Value Error)}
  {state : State Value Error} {index : Nat}

/-- Between events the items that have their place in the order of ending are
those that have settled. -/
theorem Calm.mem_rankings_iff
    (calm : Calm state)
    (traces : Traces settings generators acts state) :
    index ∈ rankings acts ↔ ∃ order ending, state.cells[index]? = some (.settled order ending) := by
  constructor
  · intro counted
    obtain ⟨place, found⟩ := List.mem_iff_getElem?.mp counted
    have known := List.getElem?_eq_getElem (traces.ranked index counted)
    obtain ⟨cell, present, item⟩ := traces.item index _ known
    have ordered := (item.order place).mpr found
    have isCalm := calm.cells index cell present
    cases cell with
    | settled order ending => exact ⟨order, ending, present⟩
    | ranked => cases isCalm
    | _ => cases ordered
  · rintro ⟨order, ending, present⟩
    obtain ⟨_, _, item⟩ := traces.item_of_present present
    exact List.mem_of_getElem? ((item.order order).mp rfl)

/-- Items that have settled had been dispatched. -/
theorem Calm.lt_of_mem_rankings
    (calm : Calm state)
    (traces : Traces settings generators acts state)
    (counted : index ∈ rankings acts) :
    index < state.dispatched := by
  obtain ⟨order, ending, present⟩ := (calm.mem_rankings_iff traces).mp counted
  obtain ⟨_, _, item⟩ := traces.item_of_present present
  by_contra beyond
  have waits := item.waits.mpr (Nat.not_lt.mp beyond)
  cases waits

/-- Between events as many items have settled as have been dispatched if none
is under way, and only then. -/
theorem Calm.settledCount_eq_iff
    (calm : Calm state)
    (traces : Traces settings generators acts state)
    (within : state.dispatched ≤ state.cells.size) :
    state.settledCount = state.dispatched ↔ state.Unheld := by
  have subset : rankings acts ⊆ List.range state.dispatched := by
    intro index counted
    exact List.mem_range.mpr (calm.lt_of_mem_rankings traces counted)
  have fewer := traces.rankings_nodup.subperm subset
  rw [traces.settledCount]
  constructor
  · intro all index cell present
    obtain ⟨_, _, item⟩ := traces.item_of_present present
    by_cases started : index < state.dispatched
    · have same := fewer.perm_of_length_le (by rw [List.length_range]; exact Nat.le_of_eq all.symm)
      obtain ⟨order, ending, settled⟩ :=
        (calm.mem_rankings_iff traces).mp (same.mem_iff.mpr (List.mem_range.mpr started))
      rw [present, Option.some.injEq] at settled
      rw [settled]
      rfl
    · have waits := item.waits.mpr (Nat.not_lt.mp started)
      cases cell with
      | waiting generator => rfl
      | _ => cases waits
  · intro unheld
    have same : (rankings acts).Perm (List.range state.dispatched) := by
      apply (List.perm_ext_iff_of_nodup traces.rankings_nodup List.nodup_range).mpr
      intro index
      rw [List.mem_range]
      constructor
      · exact calm.lt_of_mem_rankings traces
      · intro started
        have present := Array.getElem?_eq_getElem (Nat.lt_of_lt_of_le started within)
        obtain ⟨_, _, item⟩ := traces.item_of_present present
        rw [calm.mem_rankings_iff traces, present]
        have free := unheld index _ present
        cases cell : state.cells[index] with
        | settled order ending => exact ⟨order, ending, rfl⟩
        | waiting generator =>
            have waits := item.waits.mp (by rw [cell]; rfl)
            omega
        | _ => simp [cell, Cell.holdsSlot] at free
    rw [same.length_eq, List.length_range]

/-- An item that is dispatched is two acts or more from where it was. -/
theorem State.weight_add_two_le_of_dispatch
    {next : State Value Error}
    (dispatches : state.step settings raised .dispatch = some next)
    (going : next.stop = none) :
    next.weight settings + 2 ≤ state.weight settings := by
  cases Steps.of_step dispatches with
  | refuse | halt => cases going
  | launch generator spared idle left positive running found =>
      have moved := State.weight_setCell settings (.dispatched generator) found
      simp only [State.weight, State.setCell, Cell.weight] at moved ⊢
      omega

section Runs

variable {happenings : List (Happening Value Error)} {final : World Value Error}
  (begins : State.begin? settings generators = some state)
  (runs : World.run settings ⟨raised, state⟩ happenings = some final)
  (calm : Calm final.state)
include begins runs calm

/-- A batch is over between events when dispatch is over and no item is under
way. -/
theorem Calm.isOver_iff :
    final.state.isOver = true ↔ final.state.dispatchOver = true ∧ final.state.Unheld := by
  rw [State.isOver, Bool.and_eq_true, decide_eq_true_eq,
    calm.settledCount_eq_iff (World.traces_of_run begins runs)
      (World.directs_of_run begins runs).within]

/-- A batch that is over can be gathered. -/
theorem Calm.isComplete_of_isOver
    (ended : final.state.isOver = true) :
    final.state.gatherAll.isComplete = true := by
  obtain ⟨finished, unheld⟩ := (calm.isOver_iff begins runs).mp ended
  exact World.isComplete_gatherAll begins runs unheld finished

/-- Where a batch is neither over nor able to dispatch some item is under way. -/
theorem Calm.exists_held
    (cannot : final.state.canDispatch settings final.raised = false)
    (going : final.state.isOver = false) :
    ∃ (index : Nat) (cell : Cell Value Error),
      final.state.cells[index]? = some cell ∧ cell.holdsSlot = true := by
  by_contra none
  have unheld : final.state.Unheld := by
    intro index cell present
    rw [← Bool.not_eq_true]
    exact fun holds => none ⟨index, cell, present, holds⟩
  have unfinished : final.state.dispatchOver = false := by
    rw [← Bool.not_eq_true]
    intro finished
    rw [(calm.isOver_iff begins runs).mpr ⟨finished, unheld⟩] at going
    cases going
  have positive := unheld.free_pos (World.free_add_heldSlots_of_run begins runs)
    (by rw [calm.idle unfinished]; rfl)
  simp [State.canDispatch, unfinished, positive] at cannot

end Runs

end Batch
end TenantLoad
