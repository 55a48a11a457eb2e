import Mathlib.Algebra.GroupWithZero.Nat
import TenantLoad.Api.Error
import TenantLoad.Proofs.Batch.History

/-!
# Slots are conserved

Free slots and held slots are always as many as the batch has.  An item holds
a slot from its launch until it gives it back, which it does once, however its
retry loop ends.  Hence no schedule has more items in slots than there are
slots.
-/

namespace TenantLoad
namespace Batch

variable {Value Error : Type}

/-- Counting after one place of an array has changed. -/
theorem countP_setIfInBounds
    {Item : Type}
    {items : Array Item}
    {index : Nat}
    {before : Item}
    (counts : Item → Bool)
    (after : Item)
    (found : items[index]? = some before) :
    (items.setIfInBounds index after).countP counts + (counts before).toNat =
      items.countP counts + (counts after).toNat := by
  obtain ⟨inside, present⟩ := Array.getElem?_eq_some_iff.mp found
  have replaced : items.setIfInBounds index after = items.set index after := by
    simp [Array.setIfInBounds, inside]
  rw [replaced, Array.countP_set inside, present]
  have counted : counts before = true → 0 < items.countP counts := by
    intro included
    exact Array.countP_pos_iff.mpr ⟨before, by rw [← present]; exact Array.getElem_mem _, included⟩
  cases included : counts before with
  | false => cases counts after <;> simp
  | true =>
      have := counted included
      cases counts after <;> simp <;> omega

/-- Setting one item of a list trades what it counts for. -/
theorem sum_map_set
    {Item : Type}
    {items : List Item}
    {index : Nat}
    {before : Item}
    (count : Item → Nat)
    (after : Item)
    (found : items[index]? = some before) :
    ((items.set index after).map count).sum + count before =
      (items.map count).sum + count after := by
  induction items generalizing index with
  | nil => cases found
  | cons item items inductionHypothesis =>
      cases index with
      | zero =>
          cases found
          simp only [List.set_cons_zero, List.map_cons, List.sum_cons]
          omega
      | succ index =>
          have present : items[index]? = some before := by simpa using found
          have rest := inductionHypothesis present
          simp only [List.set_cons_succ, List.map_cons, List.sum_cons]
          omega

variable {settings : Settings} {state next : State Value Error} {index : Nat}
  {before after : Cell Value Error}

/-- Moving an item trades its slot for the one of its new place. -/
theorem State.heldSlots_setCell
    (after : Cell Value Error)
    (found : state.cells[index]? = some before) :
    (state.setCell index after).heldSlots + before.holdsSlot.toNat =
      state.heldSlots + after.holdsSlot.toNat := by
  have counted := countP_setIfInBounds Cell.holdsSlot after found
  simp only [State.heldSlots, State.setCell] at counted ⊢
  omega

/-- Moving an item within its slot takes and frees none. -/
theorem State.heldSlots_setCell_of_holdsSlot
    (found : state.cells[index]? = some before)
    (held : before.holdsSlot = true)
    (holds : after.holdsSlot = true) :
    (state.setCell index after).heldSlots = state.heldSlots := by
  have moved := State.heldSlots_setCell after found
  rw [held, holds] at moved
  exact Nat.add_right_cancel moved

/-- Before anything happens all slots are free. -/
theorem State.free_add_heldSlots_initial
    (generators : List Random.Generator) :
    (initial settings generators : State Value Error).free +
        (initial settings generators : State Value Error).heldSlots =
      settings.slots := by
  have unheld : ∀ cell ∈ generators.map (Cell.waiting : _ → Cell Value Error),
      ¬cell.holdsSlot = true := by
    intro cell member
    obtain ⟨generator, _, rfl⟩ := List.mem_map.mp member
    simp [Cell.holdsSlot]
  simp only [initial, heldSlots, Dispatcher.holdsSlot, List.countP_toArray,
    List.countP_eq_zero.mpr unheld, Bool.toNat_false, Nat.add_zero]

variable [Retry.Retryable Error] {raised : Bool} {act : Act Value Error}

theorem Cell.holdsSlot_afterAttempt
    (settings : Settings)
    (attempt : Nat)
    (generator : Random.Generator)
    (result : Retry.Attempt Value Error) :
    (afterAttempt settings attempt generator result).holdsSlot = true := by
  simp [holdsSlot_eq]

/-- No act adds a slot or loses one. -/
theorem Moves.free_add_heldSlots
    (moves : Moves settings raised state act next) :
    next.free + next.heldSlots = state.free + state.heldSlots := by
  cases moves with
  | refuse wanting heeds isRaised =>
      rcases wanting with ⟨idle, _⟩ | seeking
      · simp [State.heldSlots, idle, Dispatcher.holdsSlot]
      · simp [State.heldSlots, seeking, Dispatcher.holdsSlot]
  | seek idle left => simp [State.heldSlots, idle, Dispatcher.holdsSlot]
  | take seeking positive =>
      simp only [State.heldSlots, seeking, Dispatcher.holdsSlot, Bool.toNat_false,
        Bool.toNat_true]
      omega
  | halt granted halted =>
      simp only [State.heldSlots, granted, Dispatcher.holdsSlot, Bool.toNat_false,
        Bool.toNat_true]
      omega
  | clear granted running => simp [State.heldSlots, granted, Dispatcher.holdsSlot]
  | launch generator cleared found =>
      -- The slot passes from the dispatcher's hand to the item.
      have moved := State.heldSlots_setCell (.dispatched generator) found
      simp only [State.heldSlots, State.setCell, cleared, Dispatcher.holdsSlot,
        Cell.holdsSlot, Bool.toNat_false, Bool.toNat_true] at moved ⊢
      omega
  | start index generator found =>
      exact congrArg (state.free + ·) (State.heldSlots_setCell_of_holdsSlot found rfl rfl)
  | finish index attempt generator result found =>
      have holds := Cell.holdsSlot_afterAttempt settings attempt generator result
      exact congrArg (state.free + ·) (State.heldSlots_setCell_of_holdsSlot found rfl holds)
  | resume index attempt delay generator found =>
      exact congrArg (state.free + ·) (State.heldSlots_setCell_of_holdsSlot found rfl rfl)
  | announce index ending found =>
      exact congrArg (state.free + ·) (State.heldSlots_setCell_of_holdsSlot found rfl rfl)
  | rank index ending found =>
      exact congrArg (state.free + ·) (State.heldSlots_setCell_of_holdsSlot found rfl rfl)
  | release index order ending found =>
      have moved := State.heldSlots_setCell (.settled order ending) found
      simp only [State.heldSlots, State.setCell, Cell.holdsSlot, Bool.toNat_false,
        Bool.toNat_true] at moved ⊢
      omega
  | gather => rfl

/-- Every run keeps all slots, free or held. -/
theorem World.free_add_heldSlots_of_run
    {generators : List Random.Generator}
    {happenings : List (Happening Value Error)}
    {final : World Value Error}
    (begins : State.begin? settings generators = some state)
    (runs : World.run settings ⟨raised, state⟩ happenings = some final) :
    final.state.free + final.state.heldSlots = settings.slots := by
  obtain rfl := State.eq_initial_of_begin?_eq_some begins
  exact World.run_state_induction
    (motive := fun _ current => current.free + current.heldSlots = settings.slots)
    (State.free_add_heldSlots_initial generators)
    (fun _ _ _ _ _ soFar moves => moves.free_add_heldSlots.trans soFar) runs

/-- On every schedule of a batch that begins, as each does that asks for no more
slots than there can be, at most as many items hold slots as there are slots,
and none of these is ever lost: the held ones, those of items and the one in the
dispatcher's hand, and the free ones are all of them.  An item holds its slot
from its launch until it gives it back, and it gives it back once, which is when
it settles, whatever its ending. -/
theorem slots_conserved
    {generators : List Random.Generator}
    {happenings : List (Happening Value Error)}
    {world : World Value Error}
    (begins : State.begin? settings generators = some state)
    (runs : World.run settings ⟨raised, state⟩ happenings = some world) :
    world.state.cells.countP Cell.holdsSlot ≤ max 1 settings.concurrency ∧
      world.state.free + world.state.heldSlots = max 1 settings.concurrency ∧
      ∀ index cell, world.state.cells[index]? = some cell →
        (actsOf happenings).countP (Act.isRelease index) = cell.isSettled.toNat ∧
          (cell.holdsSlot = true ↔
            index < (actsOf happenings).countP Act.isLaunch ∧
              (actsOf happenings).countP (Act.isRelease index) = 0) := by
  have balance := World.free_add_heldSlots_of_run begins runs
  have traces := World.traces_of_run begins runs
  refine ⟨?_, balance, ?_⟩
  · have held : world.state.cells.countP Cell.holdsSlot ≤ world.state.heldSlots :=
      Nat.le_add_right _ _
    simp only [Settings.slots] at balance
    omega
  · intro index cell present
    obtain ⟨_, _, item⟩ := traces.item_of_present present
    refine ⟨item.settled.symm, ?_⟩
    have waits : cell.isWaiting = false ↔ index < world.state.dispatched := by
      rw [← Bool.not_eq_true, item.waits, Nat.not_le]
    rw [Cell.holdsSlot_eq, ← traces.dispatched, ← item.settled, ← waits]
    cases cell.isWaiting <;> cases cell.isSettled <;> simp

/-- Two slots for three items: one rests between its attempts and another is
gone after a crash. -/
theorem slots_conserved_while_resting :
    let settings : Settings :=
      { concurrency := 2, mode := .failSoft, policy := ⟨2, .none⟩, classifier := .standard,
        heedsShutdown := true }
    let generators := List.replicate 3 (Random.Generator.ofSeed 7)
    let start : State Nat Api.Error := .initial settings generators
    let happenings : List (Happening Nat Api.Error) :=
      [.act .look, .act .take, .act .check, .act .launch, .act (.start 0),
        .act (.finish 0 (.failed (.transport "reset"))), .act .look, .act .take, .act .check,
        .act .launch, .act (.start 1), .raise, .act (.finish 1 (.crashed "lost")),
        .act (.announce 1), .act (.rank 1), .act (.release 1)]
    State.begin? settings generators = some start ∧
      ∃ world, World.run settings ⟨false, start⟩ happenings = some world ∧
        world.state.cells.countP Cell.holdsSlot ≤ 2 ∧
        world.state.free + world.state.heldSlots = 2 := by
  intro settings generators start happenings
  have begins : State.begin? settings generators = some start := rfl
  have runsOn : (World.run settings ⟨false, start⟩ happenings).isSome = true := by
    decide +kernel
  obtain ⟨world, runs⟩ := Option.isSome_iff_exists.mp runsOn
  obtain ⟨bounded, balance, _⟩ := slots_conserved begins runs
  exact ⟨begins, world, runs, bounded, balance⟩

end Batch
end TenantLoad
