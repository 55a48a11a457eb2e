import TenantLoad.Proofs.Batch.Attempts

/-!
# What one event does

`Steps` lists the effects of the events of a batch case by case, as `Moves`
does for its acts.  Between two events nothing is left half done: the
dispatcher has not begun with an item, and an item whose loop has ended has
settled.  So an event is possible as long as a batch on one thread is not
complete, and every run of turns shows the results of its attempts by the
events alone.
-/

namespace TenantLoad
namespace Batch

variable {Value Error : Type}

/-- Whether the item is not between two acts of one event. -/
def Cell.isCalm : Cell Value Error → Bool
  | .concluded _ | .announced _ | .ranked .. => false
  | .waiting _ | .dispatched _ | .attempting .. | .resting .. | .settled .. => true

/-- A batch between two events. -/
structure Calm (state : State Value Error) : Prop where
  /-- The dispatcher has not begun with an item. -/
  dispatcher : state.dispatcher = .idle ∨ ∃ reason, state.dispatcher = .stopped reason
  cells : ∀ (index : Nat) (cell : Cell Value Error), state.cells[index]? = some cell →
    cell.isCalm = true

/-- The events that an item in a slot waits for. -/
inductive Cell.Awaits (index : Nat) : Cell Value Error → Event Value Error → Prop
  | start (generator : Random.Generator) : Awaits index (.dispatched generator) (.start index)
  | finish
      (attempt : Nat)
      (generator : Random.Generator)
      (result : Retry.Attempt Value Error) :
      Awaits index (.attempting attempt generator) (.finish index result)
  | resume (attempt : Nat) (delay : Duration) (generator : Random.Generator) :
      Awaits index (.resting attempt delay generator) (.resume index)

/-- An item in a slot waits for an event, unless it is between two acts of
one. -/
theorem Cell.exists_awaits
    {cell : Cell Value Error}
    (index : Nat)
    (isCalm : cell.isCalm = true)
    (holds : cell.holdsSlot = true) :
    ∃ event, cell.Awaits index event := by
  cases cell with
  | waiting | settled => cases holds
  | concluded | announced | ranked => cases isCalm
  | dispatched generator => exact ⟨.start index, .start generator⟩
  | attempting attempt generator =>
      exact ⟨.finish index (.crashed ""), .finish attempt generator _⟩
  | resting attempt delay generator => exact ⟨.resume index, .resume attempt delay generator⟩

/-- The events among some turns. -/
def eventsOf (turns : List (Turn Value Error)) : List (Event Value Error) :=
  turns.filterMap fun turn =>
    match turn with
    | .event event => some event
    | .raise => none

@[simp] theorem eventsOf_nil : eventsOf ([] : List (Turn Value Error)) = [] := rfl

@[simp] theorem eventsOf_event
    (event : Event Value Error)
    (turns : List (Turn Value Error)) :
    eventsOf (.event event :: turns) = event :: eventsOf turns := rfl

@[simp] theorem eventsOf_raise
    (turns : List (Turn Value Error)) :
    eventsOf (.raise :: turns) = eventsOf turns := rfl

/-- The results of the attempts of an item in the order of their events. -/
def eventResults (index : Nat) (events : List (Event Value Error)) :
    List (Retry.Attempt Value Error) :=
  results index (events.map Event.opening)

theorem eventResults_cons
    (index : Nat)
    (event : Event Value Error)
    (events : List (Event Value Error)) :
    eventResults index (event :: events) =
      results index [event.opening] ++ eventResults index events := by
  rw [eventResults, List.map_cons, ← List.singleton_append]
  exact List.filterMap_append

/-- The effect of an event on a batch. -/
inductive Steps [Retry.Retryable Error] (settings : Settings) (raised : Bool)
    (state : State Value Error) : Event Value Error → State Value Error → Prop
  | refuse
      (wanting :
        state.dispatcher = .idle ∧ state.dispatched < state.cells.size ∨
          state.dispatcher = .seeking)
      (heeds : settings.heedsShutdown = true)
      (isRaised : raised = true) :
      Steps settings raised state .dispatch { state with dispatcher := .stopped .shutdown }
  | halt
      (spared : (settings.heedsShutdown && raised) = false)
      (idle : state.dispatcher = .idle)
      (left : state.dispatched < state.cells.size)
      (positive : 0 < state.free)
      (halted : state.halted = true) :
      Steps settings raised state .dispatch { state with dispatcher := .stopped .failure }
  | launch
      (generator : Random.Generator)
      (spared : (settings.heedsShutdown && raised) = false)
      (idle : state.dispatcher = .idle)
      (left : state.dispatched < state.cells.size)
      (positive : 0 < state.free)
      (running : state.halted = false)
      (found : state.cells[state.dispatched]? = some (.waiting generator)) :
      Steps settings raised state .dispatch
        { state.setCell state.dispatched (.dispatched generator) with
          dispatched := state.dispatched + 1
          free := state.free - 1 }
  | start
      (index : Nat)
      (generator : Random.Generator)
      (found : state.cells[index]? = some (.dispatched generator)) :
      Steps settings raised state (.start index) (state.setCell index (.attempting 1 generator))
  | rest
      (index attempt : Nat)
      (generator following : Random.Generator)
      (delay : Duration)
      (result : Retry.Attempt Value Error)
      (found : state.cells[index]? = some (.attempting attempt generator))
      (backsOff : Retry.next settings.policy settings.classifier attempt generator result =
        .backOff delay following) :
      Steps settings raised state (.finish index result)
        (state.setCell index (.resting (attempt + 1) delay following))
  | settle
      (index attempt : Nat)
      (generator : Random.Generator)
      (result : Retry.Attempt Value Error)
      (ending : Retry.Ending Value Error)
      (found : state.cells[index]? = some (.attempting attempt generator))
      (settles : Retry.next settings.policy settings.classifier attempt generator result =
        .settle ending) :
      Steps settings raised state (.finish index result)
        { state.setCell index (.settled state.settledCount ending) with
          halted :=
            state.halted || ((Outcome.ofEnding ending).isFailure && settings.mode == .failFast)
          settledCount := state.settledCount + 1
          free := state.free + 1 }
  | resume
      (index attempt : Nat)
      (delay : Duration)
      (generator : Random.Generator)
      (found : state.cells[index]? = some (.resting attempt delay generator)) :
      Steps settings raised state (.resume index)
        (state.setCell index (.attempting attempt generator))

variable [Retry.Retryable Error] {settings : Settings} {raised : Bool}
  {state next : State Value Error} {event : Event Value Error} {index : Nat}

/-! ## Each event is one of the cases -/

omit [Retry.Retryable Error] in
theorem State.getElem?_setCell_self
    {cell : Cell Value Error}
    (after : Cell Value Error)
    (found : state.cells[index]? = some cell) :
    (state.setCell index after).cells[index]? = some after :=
  Array.getElem?_setIfInBounds_self_of_lt (Array.getElem?_eq_some_iff.mp found).1

omit [Retry.Retryable Error] in
/-- An item whose loop has ended settles at once. -/
theorem State.settle_setCell_concluded
    {cell : Cell Value Error}
    (settings : Settings)
    (ending : Retry.Ending Value Error)
    (found : state.cells[index]? = some cell) :
    (state.setCell index (.concluded ending)).settle settings index =
      some
        { state.setCell index (.settled state.settledCount ending) with
          halted :=
            state.halted || ((Outcome.ofEnding ending).isFailure && settings.mode == .failFast)
          settledCount := state.settledCount + 1
          free := state.free + 1 } := by
  have inside := (Array.getElem?_eq_some_iff.mp found).1
  simp [settle, announce, rank, release, setCell, inside]

/-- The end of an attempt lets the item rest or settle. -/
theorem Steps.of_finish
    {result : Retry.Attempt Value Error}
    (finishes : state.finish settings index result = some next) :
    Steps settings raised state (.finish index result) next := by
  obtain ⟨ended, ends, onwards⟩ := Option.bind_eq_some_iff.mp finishes
  have enabled : state.act settings raised (.finish index result) = some ended := ends
  cases Moves.of_act enabled with
  | finish _ attempt generator _ found =>
      rcases Cell.afterAttempt_cases settings attempt generator result with
        ⟨ending, decision, stands⟩ | ⟨delay, following, decision, stands⟩
      · rw [stands, State.getElem?_setCell_self _ found,
          State.settle_setCell_concluded settings ending found] at onwards
        cases onwards
        exact .settle index attempt generator result ending found decision
      · rw [stands, State.getElem?_setCell_self _ found] at onwards
        cases onwards
        exact .rest index attempt generator following delay result found decision

/-- A dispatch with the signal down needs a free slot and meets the halt or an
item. -/
theorem Steps.of_dispatch_seeking
    (spared : (settings.heedsShutdown && raised) = false)
    (idle : state.dispatcher = .idle)
    (left : state.dispatched < state.cells.size)
    (dispatches : state.dispatch settings raised = some next) :
    Steps settings raised state .dispatch next := by
  simp only [State.dispatch, State.look, idle, left, spared, State.stop, State.take, State.check,
    if_true, Bool.false_eq_true, if_false, Option.bind_eq_bind, Option.bind_some,
    Option.isSome_none] at dispatches
  by_cases positive : 0 < state.free
  · rw [if_pos positive, Option.bind_some] at dispatches
    dsimp only at dispatches
    cases halted : state.halted with
    | true =>
        simp only [halted, if_true, Option.bind_some, Option.isSome_some, Option.pure_def,
          Option.some.injEq, Nat.sub_add_cancel positive] at dispatches
        subst dispatches
        have steps := Steps.halt spared idle left positive halted
        simpa only [halted] using steps
    | false =>
        simp only [halted, Bool.false_eq_true, if_false, Option.bind_some, Option.isSome_none,
          State.launch] at dispatches
        split at dispatches
        · rename_i generator _ found
          cases dispatches
          have steps := Steps.launch generator spared idle left positive halted found
          simpa only [State.setCell, halted, idle] using steps
        · cases dispatches
  · rw [if_neg positive] at dispatches
    cases dispatches

/-- A dispatch meets the signal, the halt or an item. -/
theorem Steps.of_dispatch
    (dispatches : state.dispatch settings raised = some next) :
    Steps settings raised state .dispatch next := by
  obtain ⟨looked, looks, onwards⟩ := Option.bind_eq_some_iff.mp dispatches
  have enabled : state.act settings raised .look = some looked := looks
  cases Moves.of_act enabled with
  | refuse wanting heeds isRaised =>
      cases onwards
      exact .refuse wanting heeds isRaised
  | seek idle left =>
      have spared : (settings.heedsShutdown && raised) = false := by
        by_contra refused
        rw [Bool.not_eq_false] at refused
        simp [State.look, idle, left, refused] at looks
      exact .of_dispatch_seeking spared idle left dispatches

/-- Every possible event is one of the cases. -/
theorem Steps.of_step
    (steps : state.step settings raised event = some next) :
    Steps settings raised state event next := by
  cases event with
  | dispatch => exact .of_dispatch steps
  | start index =>
      have enabled : state.act settings raised (.start index) = some next := steps
      cases Moves.of_act enabled with
      | start _ generator found => exact .start index generator found
  | finish index result => exact .of_finish steps
  | resume index =>
      have enabled : state.act settings raised (.resume index) = some next := steps
      cases Moves.of_act enabled with
      | resume _ attempt delay generator found =>
          exact .resume index attempt delay generator found

/-! ## What one event keeps -/

omit [Retry.Retryable Error] in
/-- Moving an item to where no event is half done keeps all items so. -/
theorem Calm.cells_setCell
    {after cell : Cell Value Error}
    {other : Nat}
    (calm : Calm state)
    (isCalm : after.isCalm = true)
    (present : (state.setCell index after).cells[other]? = some cell) :
    cell.isCalm = true := by
  rw [State.setCell_cells, Array.getElem?_setIfInBounds] at present
  split at present
  · split at present
    · cases present
      exact isCalm
    · cases present
  · exact calm.cells other cell present

/-- An event leaves nothing half done. -/
theorem Calm.step
    (calm : Calm state)
    (steps : Steps settings raised state event next) :
    Calm next where
  dispatcher := by
    cases steps with
    | refuse => exact Or.inr ⟨.shutdown, rfl⟩
    | halt => exact Or.inr ⟨.failure, rfl⟩
    | launch | start | rest | settle | resume => exact calm.dispatcher
  cells := by
    intro other cell present
    cases steps with
    | refuse | halt => exact calm.cells other cell present
    | launch | start | rest | settle | resume => exact calm.cells_setCell rfl present

omit [Retry.Retryable Error] in
theorem Calm.initial
    (settings : Settings)
    (generators : List Random.Generator) :
    Calm (.initial settings generators : State Value Error) where
  dispatcher := Or.inl rfl
  cells := by
    intro index cell present
    obtain ⟨generator, rfl⟩ := State.eq_waiting_of_initial present
    rfl

omit [Retry.Retryable Error] in
/-- Between events, a dispatcher with an item left is about to begin with
it. -/
theorem Calm.idle
    (calm : Calm state)
    (going : state.dispatchOver = false) :
    state.dispatcher = .idle := by
  rcases calm.dispatcher with idle | ⟨reason, stopped⟩
  · exact idle
  · simp [State.dispatchOver, State.stop, stopped] at going

theorem Steps.cells_size
    (steps : Steps settings raised state event next) :
    next.cells.size = state.cells.size := by
  cases steps <;> simp

/-- Every event counts. -/
theorem State.weight_lt_of_step
    (steps : state.step settings raised event = some next) :
    next.weight settings < state.weight settings := by
  obtain ⟨quiet, _, takes⟩ := takes_of_step steps
  have counted := takes.length_add_weight_le
  rw [List.length_cons] at counted
  omega

/-! ## Some event is possible -/

omit [Retry.Retryable Error] in
/-- Between events, with an item left, the dispatcher moves if the signal or a
free slot lets it. -/
theorem Calm.isSome_dispatch
    (calm : Calm state)
    (waits : state.dispatched < state.cells.size →
      ∃ generator, state.cells[state.dispatched]? = some (.waiting generator))
    (can : state.canDispatch settings raised = true) :
    (state.dispatch settings raised).isSome = true := by
  simp only [State.canDispatch, Bool.and_eq_true, Bool.not_eq_true', Bool.or_eq_true,
    decide_eq_true_eq] at can
  obtain ⟨going, able⟩ := can
  have idle := calm.idle going
  have left : state.dispatched < state.cells.size := by
    simp only [State.dispatchOver, Bool.or_eq_false_iff, decide_eq_false_iff_not,
      Nat.not_le] at going
    exact going.2
  obtain ⟨generator, found⟩ := waits left
  cases refused : settings.heedsShutdown && raised with
  | true => simp [State.dispatch, State.look, idle, left, refused, State.stop]
  | false =>
      have positive : 0 < state.free := by
        rcases able with able | positive
        · simp [able] at refused
        · exact positive
      simp only [State.dispatch, State.look, idle, left, refused, State.stop, State.take, positive,
        State.check, if_true, Bool.false_eq_true, if_false, Option.bind_eq_bind, Option.bind_some,
        Option.isSome_none]
      cases halted : state.halted with
      | true => rfl
      | false =>
          simp only [Bool.false_eq_true, if_false, Option.bind_some, Option.isSome_none,
            State.launch, found]
          rfl

/-- Every attempt under way can end with any result. -/
theorem State.isSome_finish
    {attempt : Nat}
    {generator : Random.Generator}
    (found : state.cells[index]? = some (.attempting attempt generator))
    (result : Retry.Attempt Value Error) :
    (state.finish settings index result).isSome = true := by
  simp only [finish, endAttempt, found, Option.bind_eq_bind, Option.bind_some]
  rw [getElem?_setCell_self _ found]
  rcases Cell.afterAttempt_cases settings attempt generator result with
    ⟨ending, _, stands⟩ | ⟨_, _, _, stands⟩
  · rw [stands]
    dsimp only
    rw [settle_setCell_concluded settings ending found]
    rfl
  · rw [stands]
    rfl

/-- What an item waits for can happen. -/
theorem Cell.Awaits.isSome_step
    {cell : Cell Value Error}
    {event : Event Value Error}
    (awaits : cell.Awaits index event)
    (found : state.cells[index]? = some cell) :
    (state.step settings raised event).isSome = true := by
  cases awaits with
  | start generator => simp [State.step, State.start, found]
  | finish attempt generator result => exact State.isSome_finish found result
  | resume attempt delay generator => simp [State.step, State.resume, found]

/-- Between events, an item in a slot can go on. -/
theorem Calm.exists_event
    {cell : Cell Value Error}
    (calm : Calm state)
    (found : state.cells[index]? = some cell)
    (holds : cell.holdsSlot = true) :
    ∃ event, (state.step settings raised event).isSome = true := by
  obtain ⟨event, awaits⟩ := Cell.exists_awaits index (calm.cells index cell found) holds
  exact ⟨event, awaits.isSome_step found⟩

/-! ## Runs of turns -/

omit [Retry.Retryable Error] in
@[simp] theorem actsOf_map_act
    (acts : List (Act Value Error)) :
    actsOf (acts.map .act) = acts := by
  simp [actsOf, List.filterMap_map]

omit [Retry.Retryable Error] in
theorem results_append
    (index : Nat)
    (earlier later : List (Act Value Error)) :
    results index (earlier ++ later) = results index earlier ++ results index later :=
  List.filterMap_append

omit [Retry.Retryable Error] in
/-- Acts that neither begin nor end an attempt add no result. -/
theorem results_eq_nil_of_isQuiet
    {quiet : List (Act Value Error)}
    (areQuiet : ∀ act ∈ quiet, act.isQuiet = true)
    (index : Nat) :
    results index quiet = [] := by
  rw [results, List.filterMap_eq_nil_iff]
  exact fun act member => Act.result?_of_isQuiet (areQuiet act member) index

namespace World

variable {world final : World Value Error} {turns earlier later : List (Turn Value Error)}
  {generators : List Random.Generator}

/-- Turns lead through what the first of them and the others lead to. -/
theorem turns_append_eq_some_iff :
    world.turns settings (earlier ++ later) = some final ↔
      ∃ moment, world.turns settings earlier = some moment ∧
        moment.turns settings later = some final := by
  simp only [turns, List.foldlM_append]
  exact Option.bind_eq_some_iff

theorem turns_event_cons_eq_some_iff :
    world.turns settings (.event event :: turns) = some final ↔
      ∃ next, world.state.step settings world.raised event = some next ∧
        ({ world with state := next } : World Value Error).turns settings turns = some final := by
  simp only [World.turns, List.foldlM_cons, turn]
  cases world.state.step settings world.raised event <;> simp

/-- What the signal and every event keep holds after every run of turns. -/
theorem turns_induction
    {motive : World Value Error → Prop}
    (start : motive world)
    (raise : ∀ current, motive current → motive { current with raised := true })
    (step : ∀ current event next,
      motive current →
      Steps settings current.raised current.state event next →
      motive { current with state := next })
    (takes : world.turns settings turns = some final) :
    motive final := by
  induction turns generalizing world with
  | nil =>
      cases takes
      exact start
  | cons turn turns inductionHypothesis =>
      cases turn with
      | raise => exact inductionHypothesis (raise world start) takes
      | event event =>
          obtain ⟨next, steps, rest⟩ := turns_event_cons_eq_some_iff.mp takes
          exact inductionHypothesis (step world event next start (.of_step steps)) rest

/-- Every run of turns leaves nothing half done. -/
theorem calm_of_turns
    (begins : State.begin? settings generators = some state)
    (takes : World.turns settings ⟨raised, state⟩ turns = some final) :
    Calm final.state := by
  obtain rfl := State.eq_initial_of_begin?_eq_some begins
  exact turns_induction (motive := fun current => Calm current.state)
    (Calm.initial settings generators) (fun _ calm => calm)
    (fun _ _ _ calm steps => calm.step steps) takes

/-- Every run of turns is a run with the same results. -/
theorem exists_run_of_turns
    (takes : world.turns settings turns = some final) :
    ∃ happenings, world.run settings happenings = some final ∧
      ∀ index, results index (actsOf happenings) = eventResults index (eventsOf turns) := by
  induction turns generalizing world with
  | nil =>
      cases takes
      exact ⟨[], rfl, fun _ => rfl⟩
  | cons turn turns inductionHypothesis =>
      cases turn with
      | raise =>
          obtain ⟨happenings, runs, same⟩ := inductionHypothesis takes
          exact ⟨.raise :: happenings, runs, same⟩
      | event event =>
          obtain ⟨next, steps, rest⟩ := turns_event_cons_eq_some_iff.mp takes
          obtain ⟨quiet, areQuiet, first⟩ := State.takes_of_step steps
          obtain ⟨happenings, runs, same⟩ := inductionHypothesis rest
          refine ⟨(event.opening :: quiet).map Happening.act ++ happenings,
            run_append_eq_some_iff.mpr ⟨_, first, runs⟩, ?_⟩
          intro index
          rw [actsOf_append, actsOf_map_act, results_append, same index, eventsOf_event,
            eventResults_cons, ← List.singleton_append, results_append,
            results_eq_nil_of_isQuiet areQuiet, List.append_nil]

end World
end Batch
end TenantLoad
