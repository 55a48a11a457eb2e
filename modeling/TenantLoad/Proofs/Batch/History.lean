import TenantLoad.Proofs.Batch.Moves
import TenantLoad.Proofs.Retry.Replay
import Mathlib.Data.List.Nodup

/-!
# The history of a batch

The acts of a run determine where its items stand.  The results among them
are replayed to where an item's retry loop stands, the order in which items
were counted gives their places, and the items that were started are as many
as were launched.  `Traces` says so of a state, and every run keeps it.
-/

namespace TenantLoad
namespace Batch

variable {Value Error : Type}

namespace Act

/-- Whether an act starts the next item. -/
def isLaunch : Act Value Error → Bool
  | .launch => true
  | _ => false

/-- The item that an act counts as ended. -/
def ranked? : Act Value Error → Option Nat
  | .rank index => some index
  | _ => none

/-- The result that an act gives to an attempt of an item. -/
def result? (index : Nat) : Act Value Error → Option (Retry.Attempt Value Error)
  | .finish other result => if other = index then some result else none
  | _ => none

/-- Whether an act gives back the slot of an item. -/
def isRelease (index : Nat) : Act Value Error → Bool
  | .release other => other == index
  | _ => false

variable {act : Act Value Error} {following index : Nat}

theorem result?_eq_none
    (other : act.mover? following ≠ some index) :
    act.result? index = none := by
  cases act <;> simp_all [mover?, result?]

theorem ranked?_ne
    (other : act.mover? following ≠ some index) :
    act.ranked? ≠ some index := by
  cases act <;> simp_all [mover?, ranked?]

theorem isRelease_eq_false
    (other : act.mover? following ≠ some index) :
    act.isRelease index = false := by
  cases act <;> simp_all [mover?, isRelease]

end Act

/-- The items in the order in which they were counted as ended. -/
def rankings (acts : List (Act Value Error)) : List Nat := acts.filterMap Act.ranked?

/-- The results of the attempts of an item, in order. -/
def results (index : Nat) (acts : List (Act Value Error)) : List (Retry.Attempt Value Error) :=
  acts.filterMap (Act.result? index)

@[simp] theorem rankings_concat
    (acts : List (Act Value Error))
    (act : Act Value Error) :
    rankings (acts ++ [act]) = rankings acts ++ act.ranked?.toList := by
  cases ranked : act.ranked? <;> simp [rankings, ranked]

@[simp] theorem results_concat
    (index : Nat)
    (acts : List (Act Value Error))
    (act : Act Value Error) :
    results index (acts ++ [act]) = results index acts ++ (act.result? index).toList := by
  cases result : act.result? index <;> simp [results, result]

namespace Cell

/-- Whether the item has not been dispatched. -/
def isWaiting : Cell Value Error → Bool
  | .waiting _ => true
  | _ => false

/-- Whether the item has ended and is out of its slot. -/
def isSettled : Cell Value Error → Bool
  | .settled .. => true
  | _ => false

/-- The place of the item in the order of ending, once it has been counted. -/
def order? : Cell Value Error → Option Nat
  | .ranked order _ | .settled order _ => some order
  | _ => none

/-- Where the retry loop of the item stands. -/
def progress : Cell Value Error → Retry.Progress Value Error
  | .waiting generator | .dispatched generator => .trying 1 generator
  | .attempting attempt generator | .resting attempt _ generator => .trying attempt generator
  | .concluded ending | .announced ending | .ranked _ ending | .settled _ ending =>
    .ended ending

/-- An item holds a slot from its dispatch until it has settled. -/
theorem holdsSlot_eq (cell : Cell Value Error) :
    cell.holdsSlot = (!cell.isWaiting && !cell.isSettled) := by
  cases cell <;> rfl

variable [Retry.Retryable Error] (settings : Settings) (attempt : Nat)
  (generator : Random.Generator) (result : Retry.Attempt Value Error)

/-- After an attempt the loop of an item has ended or the item rests. -/
theorem afterAttempt_cases :
    (∃ ending,
        Retry.next settings.policy settings.classifier attempt generator result =
          .settle ending ∧
        afterAttempt settings attempt generator result = .concluded ending) ∨
      ∃ delay following,
        Retry.next settings.policy settings.classifier attempt generator result =
          .backOff delay following ∧
        afterAttempt settings attempt generator result =
          .resting (attempt + 1) delay following := by
  unfold afterAttempt
  cases Retry.next settings.policy settings.classifier attempt generator result with
  | settle ending => exact Or.inl ⟨ending, rfl, rfl⟩
  | backOff delay following => exact Or.inr ⟨delay, following, rfl, rfl⟩

/-- After an attempt the item stands where its retry loop stands. -/
theorem progress_afterAttempt :
    (afterAttempt settings attempt generator result).progress =
      (Retry.Progress.trying attempt generator).after settings.policy settings.classifier
        result := by
  simp only [Retry.Progress.after]
  rcases afterAttempt_cases settings attempt generator result with
    ⟨ending, decision, stands⟩ | ⟨delay, following, decision, stands⟩
  · rw [decision, stands]
    rfl
  · rw [decision, stands]
    rfl

@[simp] theorem isWaiting_afterAttempt :
    (afterAttempt settings attempt generator result).isWaiting = false := by
  rcases afterAttempt_cases settings attempt generator result with
    ⟨_, _, stands⟩ | ⟨_, _, _, stands⟩ <;> rw [stands] <;> rfl

@[simp] theorem isSettled_afterAttempt :
    (afterAttempt settings attempt generator result).isSettled = false := by
  rcases afterAttempt_cases settings attempt generator result with
    ⟨_, _, stands⟩ | ⟨_, _, _, stands⟩ <;> rw [stands] <;> rfl

@[simp] theorem order?_afterAttempt :
    (afterAttempt settings attempt generator result).order? = none := by
  rcases afterAttempt_cases settings attempt generator result with
    ⟨_, _, stands⟩ | ⟨_, _, _, stands⟩ <;> rw [stands] <;> rfl

end Cell

variable [Retry.Retryable Error] {settings : Settings} {raised : Bool}
  {state next : State Value Error} {act : Act Value Error} {index : Nat}
  {before after : Cell Value Error}

/-! ## What one act does to the views of an item -/

namespace CellMoves

/-- Items wait in order: those from the next one on. -/
theorem isWaiting_iff
    (moves : CellMoves settings state index act before after)
    (waits : before.isWaiting = true ↔ state.dispatched ≤ index) :
    after.isWaiting = true ↔ state.dispatched + act.isLaunch.toNat ≤ index := by
  cases moves with
  | keep cell other =>
      rw [waits]
      cases act <;> simp_all [Act.isLaunch, Act.mover?]
      omega
  | launch generator here =>
      simp [Cell.isWaiting, Act.isLaunch, here]
  | finish attempt generator result =>
      rw [Cell.isWaiting_afterAttempt]
      exact waits
  | start | resume | announce | rank | release => exact waits

/-- A retry loop moves with the results of its item's attempts. -/
theorem progress_eq
    (moves : CellMoves settings state index act before after) :
    after.progress =
      match act.result? index with
      | none => before.progress
      | some result => before.progress.after settings.policy settings.classifier result := by
  cases moves with
  | keep cell other => rw [Act.result?_eq_none other]
  | finish attempt generator result =>
      rw [Cell.progress_afterAttempt]
      simp [Act.result?, Cell.progress]
  | launch | start | resume | announce | rank | release => rfl

/-- An item takes its place when it is counted and keeps it. -/
theorem order?_eq
    (moves : CellMoves settings state index act before after) :
    after.order? =
      if act.ranked? = some index then some state.settledCount else before.order? := by
  cases moves with
  | keep cell other => rw [if_neg (Act.ranked?_ne other)]
  | finish attempt generator result =>
      rw [Cell.order?_afterAttempt]
      rfl
  | launch | start | resume | announce | rank | release =>
      simp [Act.ranked?, Cell.order?]

/-- An item settles when it gives its slot back, and only then. -/
theorem isSettled_eq
    (moves : CellMoves settings state index act before after) :
    after.isSettled.toNat = before.isSettled.toNat + (act.isRelease index).toNat := by
  cases moves with
  | keep cell other => rw [Act.isRelease_eq_false other]; rfl
  | finish attempt generator result =>
      rw [Cell.isSettled_afterAttempt]
      rfl
  | launch | start | resume | announce | rank => rfl
  | release => simp [Cell.isSettled, Act.isRelease]

end CellMoves

/-! ## What one act does to the counts -/

theorem Moves.dispatched_eq
    (moves : Moves settings raised state act next) :
    next.dispatched = state.dispatched + act.isLaunch.toNat := by
  cases moves <;> rfl

theorem Moves.settledCount_eq
    (moves : Moves settings raised state act next) :
    next.settledCount = state.settledCount + act.ranked?.toList.length := by
  cases moves <;> rfl

/-! ## Histories -/

/-- What the acts so far say about one item. -/
structure ItemTraces (settings : Settings) (acts : List (Act Value Error))
    (dispatched index : Nat) (generator : Random.Generator) (cell : Cell Value Error) :
    Prop where
  /-- The items from the next one on are waiting. -/
  waits : cell.isWaiting = true ↔ dispatched ≤ index
  /-- The loop stands where the results of its attempts lead. -/
  progress : cell.progress =
    Retry.replay settings.policy settings.classifier generator (results index acts)
  /-- The item has its place in the order of ending. -/
  order : ∀ order, cell.order? = some order ↔ (rankings acts)[order]? = some index
  /-- The item has given its slot back once if it has settled, else never. -/
  settled : cell.isSettled.toNat = acts.countP (Act.isRelease index)

/-- What the acts so far say about a batch. -/
structure Traces (settings : Settings) (generators : List Random.Generator)
    (acts : List (Act Value Error)) (state : State Value Error) : Prop where
  size : state.cells.size = generators.length
  dispatched : state.dispatched = acts.countP Act.isLaunch
  settledCount : state.settledCount = (rankings acts).length
  ranked : ∀ index ∈ rankings acts, index < generators.length
  item : ∀ index generator, generators[index]? = some generator →
    ∃ cell, state.cells[index]? = some cell ∧
      ItemTraces settings acts state.dispatched index generator cell

private theorem getElem?_concat_eq_some_iff
    {items : List Nat}
    {item wanted place : Nat} :
    (items ++ [item])[place]? = some wanted ↔
      items[place]? = some wanted ∨ place = items.length ∧ item = wanted := by
  rw [List.getElem?_append]
  split
  · rename_i inside
    constructor
    · exact Or.inl
    · rintro (found | ⟨rfl, _⟩)
      · exact found
      · omega
  · rename_i outside
    have beyond : items[place]? = none := by simp; omega
    rw [beyond, List.getElem?_singleton]
    split
    · have : place = items.length := by omega
      simp [this]
    · have : place ≠ items.length := by omega
      simp [this]

/-- One act keeps what the history says about an item. -/
theorem ItemTraces.step
    {acts : List (Act Value Error)}
    {generator : Random.Generator}
    (traces : ItemTraces settings acts state.dispatched index generator before)
    (counted : state.settledCount = (rankings acts).length)
    (moves : CellMoves settings state index act before after) :
    ItemTraces settings (acts ++ [act]) (state.dispatched + act.isLaunch.toNat) index
      generator after where
  waits := moves.isWaiting_iff traces.waits
  progress := by
    rw [moves.progress_eq, results_concat, traces.progress]
    cases act.result? index <;> simp
  order := by
    intro order
    rw [moves.order?_eq, rankings_concat]
    cases ranked : act.ranked? with
    | none => simpa using traces.order order
    | some other =>
        rw [Option.toList_some, getElem?_concat_eq_some_iff, ← traces.order, ← counted]
        by_cases same : other = index
        · subst same
          have unranked : before.order? = none := by
            cases moves with
            | keep cell different => exact absurd ranked (Act.ranked?_ne different)
            | launch | start | finish | resume | announce | release =>
                simp [Act.ranked?] at ranked
            | rank => rfl
          simp [unranked, eq_comm]
        · simp [same]
  settled := by
    rw [moves.isSettled_eq, traces.settled, List.countP_append]
    cases releases : act.isRelease index <;> simp [releases]

/-- One act keeps what the history says about a batch. -/
theorem Traces.step
    {generators : List Random.Generator}
    {acts : List (Act Value Error)}
    (traces : Traces settings generators acts state)
    (moves : Moves settings raised state act next) :
    Traces settings generators (acts ++ [act]) next where
  size := moves.cells_size.trans traces.size
  dispatched := by
    rw [moves.dispatched_eq, traces.dispatched, List.countP_append]
    cases launches : act.isLaunch <;> simp [launches]
  settledCount := by
    rw [moves.settledCount_eq, rankings_concat, List.length_append, traces.settledCount]
  ranked := by
    intro index counted
    rw [rankings_concat, List.mem_append] at counted
    rcases counted with earlier | now
    · exact traces.ranked index earlier
    · cases moves with
      | rank moved ending found =>
          obtain rfl : moved = index := by simpa [Act.ranked?, eq_comm] using now
          rw [← traces.size]
          exact (Array.getElem?_eq_some_iff.mp found).1
      | _ => simp [Act.ranked?] at now
  item := by
    intro index generator known
    obtain ⟨before, present, item⟩ := traces.item index generator known
    obtain ⟨after, later, cellMoves⟩ := moves.cell present
    refine ⟨after, later, ?_⟩
    rw [moves.dispatched_eq]
    exact item.step traces.settledCount cellMoves

theorem Traces.initial
    (settings : Settings)
    (generators : List Random.Generator) :
    Traces settings generators ([] : List (Act Value Error)) (.initial settings generators) where
  size := by simp [State.initial]
  dispatched := rfl
  settledCount := rfl
  ranked := by simp [rankings]
  item := by
    intro index generator known
    refine ⟨.waiting generator, by simp [State.initial, known], ?_⟩
    exact
      { waits := by simp [Cell.isWaiting, State.initial]
        progress := rfl
        order := by simp [Cell.order?, rankings]
        settled := rfl }

/-- The history of an item that is found in a batch. -/
theorem Traces.item_of_present
    {generators : List Random.Generator}
    {acts : List (Act Value Error)}
    {cell : Cell Value Error}
    (traces : Traces settings generators acts state)
    (present : state.cells[index]? = some cell) :
    ∃ generator, generators[index]? = some generator ∧
      ItemTraces settings acts state.dispatched index generator cell := by
  have inside : index < generators.length := by
    rw [← traces.size]
    exact (Array.getElem?_eq_some_iff.mp present).1
  obtain ⟨known, found, item⟩ :=
    traces.item index generators[index] (List.getElem?_eq_getElem inside)
  rw [present, Option.some.injEq] at found
  subst found
  exact ⟨generators[index], List.getElem?_eq_getElem inside, item⟩

/-- No item is counted twice. -/
theorem Traces.rankings_nodup
    {generators : List Random.Generator}
    {acts : List (Act Value Error)}
    (traces : Traces settings generators acts state) :
    (rankings acts).Nodup := by
  rw [List.nodup_iff_getElem?_ne_getElem?]
  intro first second earlier inside same
  have counted := List.getElem?_eq_getElem inside
  have known := traces.ranked _ (List.getElem_mem inside)
  obtain ⟨cell, _, item⟩ := traces.item _ _ (List.getElem?_eq_getElem known)
  have atSecond := (item.order second).mpr counted
  have atFirst := (item.order first).mpr (same.trans counted)
  rw [atFirst, Option.some.injEq] at atSecond
  omega

/-- Every run keeps what its history says. -/
theorem World.traces_of_run
    {generators : List Random.Generator}
    {happenings : List (Happening Value Error)}
    {final : World Value Error}
    (begins : State.begin? settings generators = some state)
    (runs : World.run settings ⟨raised, state⟩ happenings = some final) :
    Traces settings generators (actsOf happenings) final.state := by
  obtain rfl := State.eq_initial_of_begin?_eq_some begins
  exact World.run_state_induction (motive := Traces settings generators)
    (Traces.initial settings generators)
    (fun _ _ _ _ _ soFar moves => soFar.step moves) runs

end Batch
end TenantLoad
