import TenantLoad.Batch.Machine
import Mathlib.Data.List.Induction

/-!
# What one act does

`Moves` lists the effects of the acts of a batch case by case, with all that
enables them, and `CellMoves` is its view of a single item.  Facts about runs
are proved of one act by cases on these and carried along a run by
`World.run_induction`.
-/

namespace TenantLoad
namespace Batch

variable {Value Error : Type}

@[simp] theorem State.setCell_cells
    (state : State Value Error)
    (index : Nat)
    (cell : Cell Value Error) :
    (state.setCell index cell).cells = state.cells.setIfInBounds index cell := rfl

/-- The acts among what happened. -/
def actsOf (happenings : List (Happening Value Error)) : List (Act Value Error) :=
  happenings.filterMap fun happening =>
    match happening with
    | .act act => some act
    | .raise => none

@[simp] theorem actsOf_nil : actsOf ([] : List (Happening Value Error)) = [] := rfl

@[simp] theorem actsOf_append
    (earlier later : List (Happening Value Error)) :
    actsOf (earlier ++ later) = actsOf earlier ++ actsOf later :=
  List.filterMap_append

@[simp] theorem actsOf_act (act : Act Value Error) : actsOf [.act act] = [act] := rfl

@[simp] theorem actsOf_raise :
    actsOf [(.raise : Happening Value Error)] = [] := rfl

variable [Retry.Retryable Error] {settings : Settings} {raised : Bool}
  {state next : State Value Error} {act : Act Value Error}

/-- The effect of an act on a batch. -/
inductive Moves (settings : Settings) (raised : Bool) (state : State Value Error) :
    Act Value Error → State Value Error → Prop
  | refuse
      (wanting :
        state.dispatcher = .idle ∧ state.dispatched < state.cells.size ∨
          state.dispatcher = .seeking)
      (heeds : settings.heedsShutdown = true)
      (isRaised : raised = true) :
      Moves settings raised state .look { state with dispatcher := .stopped .shutdown }
  | seek
      (idle : state.dispatcher = .idle)
      (left : state.dispatched < state.cells.size) :
      Moves settings raised state .look { state with dispatcher := .seeking }
  | take
      (seeking : state.dispatcher = .seeking)
      (positive : 0 < state.free) :
      Moves settings raised state .take
        { state with dispatcher := .granted, free := state.free - 1 }
  | halt
      (granted : state.dispatcher = .granted)
      (halted : state.halted = true) :
      Moves settings raised state .check
        { state with dispatcher := .stopped .failure, free := state.free + 1 }
  | clear
      (granted : state.dispatcher = .granted)
      (running : state.halted = false) :
      Moves settings raised state .check { state with dispatcher := .cleared }
  | launch
      (generator : Random.Generator)
      (cleared : state.dispatcher = .cleared)
      (found : state.cells[state.dispatched]? = some (.waiting generator)) :
      Moves settings raised state .launch
        { state.setCell state.dispatched (.dispatched generator) with
          dispatcher := .idle
          dispatched := state.dispatched + 1 }
  | start
      (index : Nat)
      (generator : Random.Generator)
      (found : state.cells[index]? = some (.dispatched generator)) :
      Moves settings raised state (.start index)
        (state.setCell index (.attempting 1 generator))
  | finish
      (index attempt : Nat)
      (generator : Random.Generator)
      (result : Retry.Attempt Value Error)
      (found : state.cells[index]? = some (.attempting attempt generator)) :
      Moves settings raised state (.finish index result)
        (state.setCell index (.afterAttempt settings attempt generator result))
  | resume
      (index attempt : Nat)
      (delay : Duration)
      (generator : Random.Generator)
      (found : state.cells[index]? = some (.resting attempt delay generator)) :
      Moves settings raised state (.resume index)
        (state.setCell index (.attempting attempt generator))
  | announce
      (index : Nat)
      (ending : Retry.Ending Value Error)
      (found : state.cells[index]? = some (.concluded ending)) :
      Moves settings raised state (.announce index)
        { state.setCell index (.announced ending) with
          halted :=
            state.halted ||
              ((Outcome.ofEnding ending).isFailure && settings.mode == .failFast) }
  | rank
      (index : Nat)
      (ending : Retry.Ending Value Error)
      (found : state.cells[index]? = some (.announced ending)) :
      Moves settings raised state (.rank index)
        { state.setCell index (.ranked state.settledCount ending) with
          settledCount := state.settledCount + 1 }
  | release
      (index order : Nat)
      (ending : Retry.Ending Value Error)
      (found : state.cells[index]? = some (.ranked order ending)) :
      Moves settings raised state (.release index)
        { state.setCell index (.settled order ending) with free := state.free + 1 }
  | gather
      (index order : Nat)
      (ending : Retry.Ending Value Error)
      (found : state.cells[index]? = some (.settled order ending))
      (finished : state.dispatchOver = true)
      (lacking : state.collection.lacks index = true) :
      Moves settings raised state (.gather index)
        { state with collection := state.collection.add index order (.ofEnding ending) }

/-- Every enabled act is one of the cases. -/
theorem Moves.of_act
    (acts : state.act settings raised act = some next) :
    Moves settings raised state act next := by
  cases act with
  | look =>
      simp only [State.act, State.look] at acts
      split at acts
      · rename_i idle
        split at acts
        · rename_i left
          cases refused : settings.heedsShutdown && raised with
          | false =>
              simp only [refused, Bool.false_eq_true, if_false, Option.some.injEq] at acts
              subst acts
              exact .seek idle left
          | true =>
              simp only [refused, if_true, Option.some.injEq] at acts
              simp only [Bool.and_eq_true] at refused
              subst acts
              exact .refuse (Or.inl ⟨idle, left⟩) refused.1 refused.2
        · cases acts
      · rename_i seeking
        split at acts
        · rename_i refused
          simp only [Bool.and_eq_true] at refused
          cases acts
          exact .refuse (Or.inr seeking) refused.1 refused.2
        · cases acts
      · cases acts
  | take =>
      simp only [State.act, State.take] at acts
      split at acts
      · rename_i seeking
        split at acts
        · rename_i positive
          cases acts
          exact .take seeking positive
        · cases acts
      · cases acts
  | check =>
      simp only [State.act, State.check] at acts
      split at acts
      · rename_i granted
        split at acts
        · rename_i halted
          cases acts
          exact .halt granted halted
        · rename_i running
          cases acts
          exact .clear granted (by simpa using running)
      · cases acts
  | launch =>
      simp only [State.act, State.launch] at acts
      split at acts
      · rename_i generator cleared found
        cases acts
        exact .launch generator cleared found
      · cases acts
  | start index =>
      simp only [State.act, State.start] at acts
      split at acts
      · rename_i generator found
        cases acts
        exact .start index generator found
      · cases acts
  | finish index result =>
      simp only [State.act, State.endAttempt] at acts
      split at acts
      · rename_i attempt generator found
        cases acts
        exact .finish index attempt generator result found
      · cases acts
  | resume index =>
      simp only [State.act, State.resume] at acts
      split at acts
      · rename_i attempt delay generator found
        cases acts
        exact .resume index attempt delay generator found
      · cases acts
  | announce index =>
      simp only [State.act, State.announce] at acts
      split at acts
      · rename_i ending found
        cases acts
        exact .announce index ending found
      · cases acts
  | rank index =>
      simp only [State.act, State.rank] at acts
      split at acts
      · rename_i ending found
        cases acts
        exact .rank index ending found
      · cases acts
  | release index =>
      simp only [State.act, State.release] at acts
      split at acts
      · rename_i order ending found
        cases acts
        exact .release index order ending found
      · cases acts
  | gather index =>
      simp only [State.act, State.gather] at acts
      split at acts
      · rename_i order ending found
        split at acts
        · rename_i ready
          simp only [Bool.and_eq_true] at ready
          cases acts
          exact .gather index order ending found ready.1 ready.2
        · cases acts
      · cases acts

/-! ## Single items -/

/-- The item that an act moves, given the next item to dispatch. -/
def Act.mover? (following : Nat) : Act Value Error → Option Nat
  | .launch => some following
  | .start index | .finish index _ | .resume index | .announce index | .rank index
  | .release index => some index
  | .look | .take | .check | .gather _ => none

/-- The effect of an act on one item. -/
inductive CellMoves (settings : Settings) (state : State Value Error) (index : Nat) :
    Act Value Error → Cell Value Error → Cell Value Error → Prop
  | keep
      {act : Act Value Error}
      (cell : Cell Value Error)
      (other : act.mover? state.dispatched ≠ some index) :
      CellMoves settings state index act cell cell
  | launch
      (generator : Random.Generator)
      (here : state.dispatched = index) :
      CellMoves settings state index .launch (.waiting generator) (.dispatched generator)
  | start (generator : Random.Generator) :
      CellMoves settings state index (.start index) (.dispatched generator)
        (.attempting 1 generator)
  | finish
      (attempt : Nat)
      (generator : Random.Generator)
      (result : Retry.Attempt Value Error) :
      CellMoves settings state index (.finish index result) (.attempting attempt generator)
        (.afterAttempt settings attempt generator result)
  | resume (attempt : Nat) (delay : Duration) (generator : Random.Generator) :
      CellMoves settings state index (.resume index) (.resting attempt delay generator)
        (.attempting attempt generator)
  | announce (ending : Retry.Ending Value Error) :
      CellMoves settings state index (.announce index) (.concluded ending) (.announced ending)
  | rank (ending : Retry.Ending Value Error) :
      CellMoves settings state index (.rank index) (.announced ending)
        (.ranked state.settledCount ending)
  | release (order : Nat) (ending : Retry.Ending Value Error) :
      CellMoves settings state index (.release index) (.ranked order ending)
        (.settled order ending)

/-- An act that moves one item by one of the cases keeps all others. -/
theorem CellMoves.of_setIfInBounds
    {moved index : Nat}
    {before after cell : Cell Value Error}
    (moves : CellMoves settings state moved act before after)
    (mover : act.mover? state.dispatched = some moved)
    (found : state.cells[moved]? = some before)
    (present : state.cells[index]? = some cell) :
    ∃ later, (state.cells.setIfInBounds moved after)[index]? = some later ∧
      CellMoves settings state index act cell later := by
  by_cases same : moved = index
  · subst same
    have inside : moved < state.cells.size := (Array.getElem?_eq_some_iff.mp found).1
    rw [found, Option.some.injEq] at present
    subst present
    exact ⟨after, Array.getElem?_setIfInBounds_self_of_lt inside, moves⟩
  · refine ⟨cell, by rw [Array.getElem?_setIfInBounds_ne same, present], .keep cell ?_⟩
    rw [mover]
    simpa using same

/-- An act leaves every item where it is or moves it by one of the cases. -/
theorem Moves.cell
    (moves : Moves settings raised state act next)
    {index : Nat}
    {before : Cell Value Error}
    (present : state.cells[index]? = some before) :
    ∃ after, next.cells[index]? = some after ∧
      CellMoves settings state index act before after := by
  cases moves with
  | refuse | seek | take | halt | clear | gather =>
      exact ⟨before, present, .keep before (by simp [Act.mover?])⟩
  | launch generator cleared found =>
      exact CellMoves.of_setIfInBounds (.launch generator rfl) rfl found present
  | start moved generator found =>
      exact CellMoves.of_setIfInBounds (.start generator) rfl found present
  | finish moved attempt generator result found =>
      exact CellMoves.of_setIfInBounds (.finish attempt generator result) rfl found present
  | resume moved attempt delay generator found =>
      exact CellMoves.of_setIfInBounds (.resume attempt delay generator) rfl found present
  | announce moved ending found =>
      exact CellMoves.of_setIfInBounds (.announce ending) rfl found present
  | rank moved ending found =>
      exact CellMoves.of_setIfInBounds (.rank ending) rfl found present
  | release moved order ending found =>
      exact CellMoves.of_setIfInBounds (.release order ending) rfl found present

/-- No act adds or removes an item. -/
theorem Moves.cells_size
    (moves : Moves settings raised state act next) :
    next.cells.size = state.cells.size := by
  cases moves <;> simp

/-- Every item after an act comes from where it was before. -/
theorem Moves.cell_before
    (moves : Moves settings raised state act next)
    {index : Nat}
    {after : Cell Value Error}
    (present : next.cells[index]? = some after) :
    ∃ before, state.cells[index]? = some before ∧
      CellMoves settings state index act before after := by
  have inside : index < state.cells.size := by
    rw [← moves.cells_size]
    exact (Array.getElem?_eq_some_iff.mp present).1
  obtain ⟨later, found, cellMoves⟩ := moves.cell (Array.getElem?_eq_getElem inside)
  rw [present, Option.some.injEq] at found
  subst found
  exact ⟨state.cells[index], Array.getElem?_eq_getElem inside, cellMoves⟩

/-! ## Runs -/

omit [Retry.Retryable Error] in
/-- A batch that begins does so in its initial state. -/
theorem State.eq_initial_of_begin?_eq_some
    {generators : List Random.Generator}
    (begins : begin? settings generators = some state) :
    state = .initial settings generators := by
  unfold begin? at begins
  split at begins
  · exact (Option.some.inj begins).symm
  · cases begins

/-- A batch can begin if it asks for no more slots than there can be. -/
theorem Settings.canBegin_of_le
    (fits : settings.concurrency ≤ slotLimit) :
    settings.canBegin = true :=
  decide_eq_true (Nat.max_le.mpr ⟨by decide, fits⟩)

omit [Retry.Retryable Error] in
/-- A batch that asks for no more slots than there can be begins. -/
theorem State.begin?_eq_some_initial
    (fits : settings.concurrency ≤ slotLimit)
    (generators : List Random.Generator) :
    begin? settings generators = some (.initial settings generators : State Value Error) :=
  if_pos (Settings.canBegin_of_le fits)

omit [Retry.Retryable Error] in
/-- At first every item waits with its own generator. -/
theorem State.getElem?_cells_initial
    (generators : List Random.Generator)
    (index : Nat) :
    (initial settings generators : State Value Error).cells[index]? =
      generators[index]?.map Cell.waiting := by
  simp only [initial, List.getElem?_toArray, List.getElem?_map]

omit [Retry.Retryable Error] in
/-- At first every item is waiting. -/
theorem State.eq_waiting_of_initial
    {generators : List Random.Generator}
    {index : Nat}
    {cell : Cell Value Error}
    (present : (initial settings generators : State Value Error).cells[index]? = some cell) :
    ∃ generator, cell = .waiting generator := by
  rw [getElem?_cells_initial, Option.map_eq_some_iff] at present
  obtain ⟨generator, _, rfl⟩ := present
  exact ⟨generator, rfl⟩

namespace World

variable {world : World Value Error}

/-- A run through what happens first and what happens later. -/
theorem run_append
    (earlier later : List (Happening Value Error)) :
    world.run settings (earlier ++ later) =
      (world.run settings earlier).bind fun between => between.run settings later := by
  simp only [run, List.foldlM_append]
  rfl

theorem run_append_eq_some_iff
    {earlier later : List (Happening Value Error)}
    {final : World Value Error} :
    world.run settings (earlier ++ later) = some final ↔
      ∃ between, world.run settings earlier = some between ∧
        between.run settings later = some final := by
  rw [run_append, Option.bind_eq_some_iff]

theorem run_singleton
    (happening : Happening Value Error) :
    world.run settings [happening] = world.step settings happening := by
  simp only [run, List.foldlM_cons, List.foldlM_nil, bind_pure]

/-- What holds at first and is kept by every act and by the signal holds after
every run. -/
theorem run_induction
    {motive : List (Act Value Error) → World Value Error → Prop}
    (start : motive [] world)
    (raise : ∀ past current,
      motive past current → motive past { current with raised := true })
    (act : ∀ past current act next,
      motive past current →
      Moves settings current.raised current.state act next →
      motive (past ++ [act]) { current with state := next })
    {happenings : List (Happening Value Error)}
    {final : World Value Error}
    (runs : world.run settings happenings = some final) :
    motive (actsOf happenings) final := by
  induction happenings using List.reverseRecOn generalizing final with
  | nil =>
      cases runs
      exact start
  | append_singleton past happening inductionHypothesis =>
      obtain ⟨current, before, last⟩ := run_append_eq_some_iff.mp runs
      have soFar := inductionHypothesis before
      rw [run_singleton] at last
      cases happening with
      | raise =>
          cases last
          simpa using raise _ _ soFar
      | act happened =>
          simp only [step, Option.map_eq_some_iff] at last
          obtain ⟨next, acts, rfl⟩ := last
          simpa using act _ _ _ _ soFar (Moves.of_act acts)

/-- What holds of the state at first and is kept by every act holds after every
run. -/
theorem run_state_induction
    {motive : List (Act Value Error) → State Value Error → Prop}
    (start : motive [] world.state)
    (act : ∀ past raised state act next,
      motive past state →
      Moves settings raised state act next →
      motive (past ++ [act]) next)
    {happenings : List (Happening Value Error)}
    {final : World Value Error}
    (runs : world.run settings happenings = some final) :
    motive (actsOf happenings) final.state :=
  run_induction (motive := fun past current => motive past current.state) start
    (fun _ _ soFar => soFar)
    (fun past current happened next => act past current.raised current.state happened next)
    runs

end World
end Batch
end TenantLoad
