import TenantLoad.Proofs.Batch.Dispatch
import TenantLoad.Proofs.Batch.Slots
import Mathlib.Data.List.Perm.Subperm

/-!
# After the halt

Once a failure has raised the halt, the dispatcher can start one item at most:
the one for which it has a slot in hand and has already found the halt down.
So only items that held a slot at that moment ever move again, and of these
there are no more than slots.
-/

namespace TenantLoad
namespace Batch

variable {Value Error : Type}

/-- The items that hold a slot: those that are in one, and the next item while
the dispatcher holds a slot for it that it will not give back. -/
def State.engaged (state : State Value Error) : List Nat :=
  (List.range state.cells.size).filter (fun index => state.cells[index]?.any Cell.holdsSlot) ++
    if state.dispatcher = .cleared then [state.dispatched] else []

/-- Counting items by their places. -/
theorem length_filter_range
    {Item : Type}
    (items : List Item)
    (counts : Item → Bool) :
    ((List.range items.length).filter fun place => items[place]?.any counts).length =
      items.countP counts := by
  induction items using List.reverseRecOn with
  | nil => rfl
  | append_singleton items item inductionHypothesis =>
      have unchanged : ∀ place ∈ List.range items.length,
          ((items ++ [item])[place]?.any counts) = (items[place]?.any counts) := by
        intro place inside
        rw [List.getElem?_append_left (List.mem_range.mp inside)]
      rw [List.length_append, List.length_singleton, List.range_succ, List.filter_append,
        List.length_append, List.filter_congr unchanged, inductionHypothesis, List.countP_append]
      cases counted : counts item <;> simp [counted]

variable {settings : Settings} {state next moment : State Value Error} {index : Nat}

namespace State

theorem mem_engaged_iff :
    index ∈ state.engaged ↔
      (∃ cell, state.cells[index]? = some cell ∧ cell.holdsSlot = true) ∨
        state.dispatcher = .cleared ∧ index = state.dispatched := by
  simp only [engaged, List.mem_append, List.mem_filter, List.mem_range, Option.any_eq_true]
  constructor
  · rintro (⟨_, holds⟩ | inHand)
    · exact Or.inl holds
    · split at inHand
      · rename_i cleared
        exact Or.inr ⟨cleared, List.mem_singleton.mp inHand⟩
      · cases inHand
  · rintro (⟨cell, found, holds⟩ | ⟨cleared, here⟩)
    · exact Or.inl ⟨(Array.getElem?_eq_some_iff.mp found).1, cell, found, holds⟩
    · right
      rw [if_pos cleared, List.mem_singleton]
      exact here

/-- Every engaged item holds one of the held slots. -/
theorem length_engaged_le_heldSlots
    (state : State Value Error) :
    state.engaged.length ≤ state.heldSlots := by
  have counted := length_filter_range state.cells.toList Cell.holdsSlot
  simp only [Array.length_toList, Array.getElem?_toList, Array.countP_toList] at counted
  rw [engaged, List.length_append, counted, heldSlots]
  refine Nat.add_le_add_left ?_ _
  split
  · rename_i cleared
    simp [cleared, Dispatcher.holdsSlot]
  · exact Nat.zero_le _

end State

variable [Retry.Retryable Error] {raised : Bool} {act : Act Value Error}
  {acts : List (Act Value Error)}

/-- What is true from the halt on. -/
structure AfterHalt (moment : State Value Error) (acts : List (Act Value Error))
    (state : State Value Error) : Prop where
  halted : state.halted = true
  /-- The dispatcher passes the check no more. -/
  handed : state.dispatcher = .cleared →
    moment.dispatcher = .cleared ∧ state.dispatched = moment.dispatched
  launched : ∀ index, moment.dispatched ≤ index → index < state.dispatched →
    index ∈ moment.engaged
  holders : ∀ index cell, state.cells[index]? = some cell → cell.holdsSlot = true →
    index ∈ moment.engaged
  movers : ∀ act ∈ acts, ∀ index, act.mover? moment.dispatched = some index →
    index ∈ moment.engaged

namespace AfterHalt

omit [Retry.Retryable Error] in
theorem initial
    (halted : moment.halted = true) :
    AfterHalt moment ([] : List (Act Value Error)) moment where
  halted := halted
  handed := fun cleared => ⟨cleared, rfl⟩
  launched := fun _ beyond within => absurd within (Nat.not_lt.mpr beyond)
  holders := fun _ cell found holds => State.mem_engaged_iff.mpr (Or.inl ⟨cell, found, holds⟩)
  movers := by simp

omit [Retry.Retryable Error] in
/-- The next item is engaged as long as the dispatcher has a slot for it. -/
theorem mem_engaged_of_cleared
    (after : AfterHalt moment acts state)
    (cleared : state.dispatcher = .cleared) :
    state.dispatched ∈ moment.engaged := by
  obtain ⟨atHalt, same⟩ := after.handed cleared
  exact State.mem_engaged_iff.mpr (Or.inr ⟨atHalt, same⟩)

/-- An item that moves was engaged at the halt. -/
theorem mem_engaged_of_mover
    (after : AfterHalt moment acts state)
    (moves : Moves settings raised state act next)
    (mover : act.mover? moment.dispatched = some index) :
    index ∈ moment.engaged := by
  cases moves with
  | refuse | seek | take | halt | clear | gather => cases mover
  | launch generator cleared found =>
      cases mover
      rw [← (after.handed cleared).2]
      exact after.mem_engaged_of_cleared cleared
  | start | finish | resume | announce | rank | release =>
      rename_i found
      cases mover
      exact after.holders _ _ found rfl

/-- An act after the halt keeps what is true from the halt on. -/
theorem step
    (after : AfterHalt moment acts state)
    (moves : Moves settings raised state act next) :
    AfterHalt moment (acts ++ [act]) next where
  halted := by
    rw [moves.halted_eq_true_iff]
    exact Or.inl after.halted
  handed := by
    intro cleared
    cases moves with
    | refuse | seek | take | halt | launch => cases cleared
    | clear granted running =>
        rw [after.halted] at running
        cases running
    | start | finish | resume | announce | rank | release | gather => exact after.handed cleared
  launched := by
    intro index beyond within
    rw [moves.dispatched_eq] at within
    cases moves with
    | launch generator cleared found =>
        rcases Nat.lt_succ_iff_lt_or_eq.mp within with earlier | rfl
        · exact after.launched index beyond earlier
        · exact after.mem_engaged_of_cleared cleared
    | _ => exact after.launched index beyond within
  holders := by
    intro index later present holds
    obtain ⟨cell, found, cellMoves⟩ := moves.cell_before present
    cases cellMoves with
    | keep => exact after.holders index _ found holds
    | launch generator here =>
        cases moves with
        | launch _ cleared _ =>
            subst here
            exact after.mem_engaged_of_cleared cleared
    | start | finish | resume | announce | rank => exact after.holders index _ found rfl
    | release => cases holds
  movers := by
    intro other member index mover
    rcases List.mem_append.mp member with earlier | now
    · exact after.movers other earlier index mover
    · rw [List.mem_singleton.mp now] at mover
      exact after.mem_engaged_of_mover moves mover

end AfterHalt

variable {generators : List Random.Generator} {happenings : List (Happening Value Error)}

/-- Every run from the halt on keeps what is true from then on. -/
theorem World.afterHalt_of_run
    {world final : World Value Error}
    (halted : world.state.halted = true)
    (runs : world.run settings happenings = some final) :
    AfterHalt world.state (actsOf happenings) final.state :=
  World.run_state_induction (motive := AfterHalt world.state) (.initial halted)
    (fun _ _ _ _ _ soFar moves => soFar.step moves) runs

/-- There are as many engaged items as slots at most. -/
theorem World.length_engaged_le_slots
    {final : World Value Error}
    (begins : State.begin? settings generators = some state)
    (runs : World.run settings ⟨raised, state⟩ happenings = some final) :
    final.state.engaged.length ≤ settings.slots := by
  have balance := World.free_add_heldSlots_of_run begins runs
  have := final.state.length_engaged_le_heldSlots
  omega

omit [Retry.Retryable Error] in
/-- Items other than an engaged one are fewer than the engaged ones, if they
are engaged too. -/
theorem State.length_lt_of_forall_mem_engaged
    {others : List Nat}
    (engages : index ∈ state.engaged)
    (distinct : others.Nodup)
    (others_ne : index ∉ others)
    (engaged : ∀ other ∈ others, other ∈ state.engaged) :
    others.length < state.engaged.length := by
  have nodup : (index :: others).Nodup := List.nodup_cons.mpr ⟨others_ne, distinct⟩
  have included : index :: others ⊆ state.engaged := by
    intro other member
    rcases List.mem_cons.mp member with rfl | earlier
    · exact engages
    · exact engaged other earlier
  exact (nodup.subperm included).length_le

end Batch
end TenantLoad
