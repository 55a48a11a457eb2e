import TenantLoad.Proofs.Batch.OneThread

/-!
# Shutdown of a batch

From the moment the signal is raised the number of dispatched items stays, and
a dispatcher with an item left can only meet the signal.  Items that hold a
slot do not notice it, and once dispatch is over nothing else does either.
-/

namespace TenantLoad
namespace Batch

variable {Value Error : Type} [Retry.Retryable Error] {settings : Settings} {raised : Bool}
  {state next : State Value Error} {event : Event Value Error}

/-! ## One event -/

/-- A raised signal that is heeded lets no item start, and the dispatcher stays
where it is or stops for shutdown. -/
theorem Steps.of_raised
    (heeds : settings.heedsShutdown = true)
    (isRaised : raised = true)
    (steps : Steps settings raised state event next) :
    next.dispatched = state.dispatched ∧
      (next.dispatcher = state.dispatcher ∨ next.dispatcher = .stopped .shutdown) := by
  cases steps with
  | refuse => exact ⟨rfl, Or.inr rfl⟩
  | halt spared | launch _ spared => simp [heeds, isRaised] at spared
  | start | rest | settle | resume => exact ⟨rfl, Or.inl rfl⟩

/-- A dispatcher that has stopped stays so. -/
theorem Steps.stopped_stays
    {reason : Stop}
    (steps : Steps settings raised state event next)
    (stopped : state.dispatcher = .stopped reason) :
    next.dispatcher = .stopped reason := by
  cases steps with
  | refuse wanting => simp [stopped] at wanting
  | halt _ idle => simp [stopped] at idle
  | launch _ _ idle => simp [stopped] at idle
  | start | rest | settle | resume => exact stopped

/-- The dispatcher stops for shutdown where it meets the raised signal before
an item. -/
theorem Steps.meets_signal
    (calm : Calm state)
    (steps : Steps settings raised state event next)
    (going : state.dispatcher ≠ .stopped .shutdown)
    (stopped : next.dispatcher = .stopped .shutdown) :
    event = .dispatch ∧ raised = true ∧ state.dispatched < state.cells.size := by
  cases steps with
  | refuse wanting _ isRaised =>
      rcases wanting with ⟨_, left⟩ | seeking
      · exact ⟨rfl, isRaised, left⟩
      · rcases calm.dispatcher with idle | ⟨_, isStopped⟩
        · simp [idle] at seeking
        · simp [isStopped] at seeking
  | halt => cases stopped
  | launch | start | rest | settle | resume => exact absurd stopped going

omit [Retry.Retryable Error] in
theorem State.dispatchOver_eq_false_iff
    (state : State Value Error) :
    state.dispatchOver = false ↔ state.stop = none ∧ state.dispatched < state.cells.size := by
  simp [dispatchOver]

/-- The dispatcher moves only while dispatch goes on. -/
theorem Calm.dispatchOver_eq_false_of_dispatch
    (calm : Calm state)
    (steps : Steps settings raised state .dispatch next) :
    state.dispatchOver = false := by
  have idle_left : state.dispatcher = .idle ∧ state.dispatched < state.cells.size := by
    cases steps with
    | refuse wanting =>
        rcases wanting with atOnce | seeking
        · exact atOnce
        · rcases calm.dispatcher with idle | ⟨_, isStopped⟩
          · simp [idle] at seeking
          · simp [isStopped] at seeking
    | halt _ idle left => exact ⟨idle, left⟩
    | launch _ _ idle left => exact ⟨idle, left⟩
  exact (State.dispatchOver_eq_false_iff state).mpr
    ⟨by simp [State.stop, idle_left.1], idle_left.2⟩

/-- Once dispatch is over the signal makes no difference to an event. -/
theorem Calm.step_eq_of_dispatchOver
    (calm : Calm state)
    (finished : state.dispatchOver = true)
    (other : Bool) :
    state.step settings raised event = state.step settings other event := by
  have immobile : ∀ signal, state.dispatch settings signal = none := by
    intro signal
    cases dispatches : state.dispatch settings signal with
    | none => rfl
    | some next =>
        have going := calm.dispatchOver_eq_false_of_dispatch (.of_dispatch dispatches)
        simp [finished] at going
  cases event with
  | dispatch => exact (immobile raised).trans (immobile other).symm
  | start | finish | resume => rfl

/-- Dispatch that is over stays so. -/
theorem Calm.dispatchOver_of_step
    (calm : Calm state)
    (finished : state.dispatchOver = true)
    (steps : Steps settings raised state event next) :
    next.dispatchOver = true := by
  cases steps with
  | refuse wanting heeds isRaised =>
      have going := calm.dispatchOver_eq_false_of_dispatch (.refuse wanting heeds isRaised)
      simp [finished] at going
  | halt spared idle left positive halted =>
      have going := calm.dispatchOver_eq_false_of_dispatch
        (.halt spared idle left positive halted)
      simp [finished] at going
  | launch generator spared idle left positive running found =>
      have going := calm.dispatchOver_eq_false_of_dispatch
        (.launch generator spared idle left positive running found)
      simp [finished] at going
  | start | rest | settle | resume =>
      simpa [State.dispatchOver, State.stop, State.setCell] using finished

/-! ## Runs of turns -/

/-- What a raised signal has left of dispatch since some moment. -/
structure World.Refuses (moment later : World Value Error) : Prop where
  raised : later.raised = true
  dispatched : later.state.dispatched = moment.state.dispatched
  size : later.state.cells.size = moment.state.cells.size
  dispatcher :
    later.state.dispatcher = moment.state.dispatcher ∨
      later.state.dispatcher = .stopped .shutdown

namespace World

variable {world moment final : World Value Error} {turns others : List (Turn Value Error)}
  {generators : List Random.Generator}

/-- From the moment the signal is raised no item is dispatched. -/
theorem refuses_of_turns
    (heeds : settings.heedsShutdown = true)
    (isRaised : moment.raised = true)
    (takes : moment.turns settings turns = some final) :
    moment.Refuses final := by
  refine turns_induction (motive := moment.Refuses) ?_ ?_ ?_ takes
  · exact ⟨isRaised, rfl, rfl, Or.inl rfl⟩
  · intro current refuses
    exact ⟨rfl, refuses.dispatched, refuses.size, refuses.dispatcher⟩
  · intro current event next refuses steps
    obtain ⟨dispatched, stands⟩ := steps.of_raised heeds refuses.raised
    refine ⟨refuses.raised, dispatched.trans refuses.dispatched,
      steps.cells_size.trans refuses.size, ?_⟩
    rcases refuses.dispatcher with same | stopped
    · exact stands.imp_left fun stays => stays.trans same
    · exact Or.inr (steps.stopped_stays stopped)

/-- In a run of turns the dispatcher meets the raised signal before an item. -/
def MeetsSignal (settings : Settings) (world : World Value Error)
    (turns : List (Turn Value Error)) : Prop :=
  ∃ earlier later moment,
    turns = earlier ++ .event .dispatch :: later ∧
      world.turns settings earlier = some moment ∧
      moment.raised = true ∧ moment.state.dispatched < moment.state.cells.size

/-- What happens in a run happens in one that begins with a turn before it. -/
theorem MeetsSignal.cons
    {turn : Turn Value Error}
    {between : World Value Error}
    (first : world.turn settings turn = some between)
    (meets : MeetsSignal settings between turns) :
    MeetsSignal settings world (turn :: turns) := by
  obtain ⟨earlier, later, moment, rfl, takes, isRaised, left⟩ := meets
  refine ⟨turn :: earlier, later, moment, rfl, ?_, isRaised, left⟩
  exact Option.bind_eq_some_iff.mpr ⟨between, first, takes⟩

/-- Dispatch stops for shutdown exactly where the dispatcher meets the raised
signal before an item. -/
theorem stopped_iff_meetsSignal
    (heeds : settings.heedsShutdown = true)
    (calm : Calm world.state)
    (going : world.state.dispatcher ≠ .stopped .shutdown)
    (takes : world.turns settings turns = some final) :
    final.state.dispatcher = .stopped .shutdown ↔ MeetsSignal settings world turns := by
  constructor
  · intro stopped
    induction turns generalizing world with
    | nil =>
        cases takes
        exact absurd stopped going
    | cons turn turns inductionHypothesis =>
        obtain ⟨between, first, rest⟩ := Option.bind_eq_some_iff.mp takes
        cases turn with
        | raise =>
            cases first
            have meets : MeetsSignal settings { world with raised := true } turns :=
              inductionHypothesis calm going rest
            exact .cons rfl meets
        | event event =>
            obtain ⟨next, enabled, rfl⟩ := Option.map_eq_some_iff.mp first
            have steps := Steps.of_step enabled
            by_cases stops : next.dispatcher = .stopped .shutdown
            · obtain ⟨rfl, isRaised, left⟩ := steps.meets_signal calm going stops
              exact ⟨[], turns, world, rfl, rfl, isRaised, left⟩
            · have meets : MeetsSignal settings { world with state := next } turns :=
                inductionHypothesis (calm.step steps) stops rest
              exact .cons first meets
  · rintro ⟨earlier, later, moment, rfl, reached, isRaised, _⟩
    obtain ⟨other, reaches, onwards⟩ := turns_append_eq_some_iff.mp takes
    obtain rfl : moment = other := Option.some.inj (reached.symm.trans reaches)
    obtain ⟨next, dispatches, rest⟩ := turns_event_cons_eq_some_iff.mp onwards
    refine turns_induction
      (motive := fun current => current.state.dispatcher = .stopped .shutdown) ?_
      (fun _ stopped => stopped) (fun _ _ _ stopped steps => steps.stopped_stays stopped) rest
    cases Steps.of_dispatch dispatches with
    | refuse => rfl
    | halt spared | launch _ spared => simp [heeds, isRaised] at spared

/-- Once dispatch is over only the events of a run show in its batch. -/
theorem map_state_turns_of_dispatchOver
    (calm : Calm state)
    (finished : state.dispatchOver = true)
    (raised : Bool)
    (turns : List (Turn Value Error)) :
    (World.turns settings ⟨raised, state⟩ turns).map World.state =
      (eventsOf turns).foldlM (State.step settings false) state := by
  induction turns generalizing raised state with
  | nil => rfl
  | cons turn turns inductionHypothesis =>
      cases turn with
      | raise => exact inductionHypothesis calm finished true
      | event event =>
          rw [eventsOf_event, List.foldlM_cons, ← calm.step_eq_of_dispatchOver finished,
            World.turns, List.foldlM_cons, turn]
          cases enabled : state.step settings raised event with
          | none => rfl
          | some next =>
              have steps := Steps.of_step enabled
              exact inductionHypothesis (calm.step steps)
                (calm.dispatchOver_of_step finished steps) raised

/-- A complete batch was stopped for shutdown exactly if the signal was raised
while dispatch was going on. -/
theorem meetsSignal_iff_of_dispatchOver
    (heeds : settings.heedsShutdown = true)
    (calm : Calm world.state)
    (going : world.state.dispatcher ≠ .stopped .shutdown)
    (takes : world.turns settings turns = some final)
    (finished : final.state.dispatchOver = true) :
    MeetsSignal settings world turns ↔
      ∃ earlier later moment,
        turns = earlier ++ later ∧ world.turns settings earlier = some moment ∧
          moment.raised = true ∧ moment.state.dispatchOver = false := by
  constructor
  · rintro ⟨earlier, later, moment, rfl, reaches, isRaised, _⟩
    obtain ⟨other, reached, onwards⟩ := turns_append_eq_some_iff.mp takes
    obtain rfl : moment = other := Option.some.inj (reaches.symm.trans reached)
    obtain ⟨next, dispatches, _⟩ := turns_event_cons_eq_some_iff.mp onwards
    have calmThen : Calm moment.state :=
      turns_induction (motive := fun current => Calm current.state) calm (fun _ calm => calm)
        (fun _ _ _ calm steps => calm.step steps) reaches
    exact ⟨earlier, _, moment, rfl, reaches, isRaised,
      calmThen.dispatchOver_eq_false_of_dispatch (.of_dispatch dispatches)⟩
  · rintro ⟨earlier, later, moment, rfl, reaches, isRaised, undone⟩
    rw [← stopped_iff_meetsSignal heeds calm going takes]
    obtain ⟨other, reached, onwards⟩ := turns_append_eq_some_iff.mp takes
    obtain rfl : moment = other := Option.some.inj (reaches.symm.trans reached)
    have refuses := refuses_of_turns heeds isRaised onwards
    refine refuses.dispatcher.resolve_left ?_
    -- Neither the items that are left nor the dispatcher would have changed.
    intro same
    have unchanged : final.state.dispatchOver = moment.state.dispatchOver := by
      simp only [State.dispatchOver, State.stop, same, refuses.dispatched, refuses.size]
    rw [unchanged, undone] at finished
    cases finished

end World

omit [Retry.Retryable Error] in
/-- The report of a batch says whether shutdown stopped its dispatcher. -/
theorem State.cancelled_iff
    (state : State Value Error) :
    (state.report settings).cancelled = true ↔ state.dispatcher = .stopped .shutdown := by
  refine ⟨state.dispatcher_eq_of_cancelled, ?_⟩
  intro stopped
  simp [report, stop, stopped]

variable {turns : List (Turn Value Error)} {final : World Value Error}
  {generators : List Random.Generator}

/-- Shutdown stops the dispatch of a batch and nothing else, once the batch has
begun: one that asks for more slots than there can be never does.  From the
moment the signal is raised no item is dispatched.  No schedule of one thread
goes on for ever or gets stuck before the batch is complete.  At every moment
the items that have not been dispatched are those from some place on, and in a
complete batch they were never started, while every other item has run its retry
loop to the end that its outcome shows.  The batch is reported cancelled exactly
if the dispatcher met the raised signal before an item, that is, once it is
complete, if the signal was raised while dispatch was going on.  After that the
signal changes nothing at all. -/
theorem shutdown_stops_dispatch
    (heeds : settings.heedsShutdown = true)
    (begins : State.begin? settings generators = some state)
    (takes : World.turns settings ⟨raised, state⟩ turns = some final) :
    (∀ earlier later moment, turns = earlier ++ later →
        World.turns settings ⟨raised, state⟩ earlier = some moment → moment.raised = true →
          final.state.dispatched = moment.state.dispatched) ∧
      ((eventsOf turns).length ≤ State.eventLimit settings generators.length ∧
        (final.state.gatherAll.isComplete = false →
          ∃ event, (final.state.step settings final.raised event).isSome = true)) ∧
      (∀ index cell, final.state.cells[index]? = some cell →
        (cell.isWaiting = true ↔ final.state.dispatched ≤ index)) ∧
      (final.state.gatherAll.isComplete = true →
        ∀ index generator, generators[index]? = some generator →
          if index < final.state.dispatched then
            ∃ ending,
              Retry.replay settings.policy settings.classifier generator
                  (eventResults index (eventsOf turns)) =
                .ended ending ∧
              (final.state.gatherAll.report settings).outcomes[index]? =
                some (.ofEnding ending)
          else
            eventResults index (eventsOf turns) = [] ∧
              (final.state.gatherAll.report settings).outcomes[index]? = some .notStarted) ∧
      ((final.state.gatherAll.report settings).cancelled = true ↔
        World.MeetsSignal settings ⟨raised, state⟩ turns) ∧
      (final.state.gatherAll.isComplete = true →
        ((final.state.gatherAll.report settings).cancelled = true ↔
          ∃ earlier later moment, turns = earlier ++ later ∧
            World.turns settings ⟨raised, state⟩ earlier = some moment ∧
            moment.raised = true ∧ moment.state.dispatchOver = false)) ∧
      (∀ earlier later moment, turns = earlier ++ later →
        World.turns settings ⟨raised, state⟩ earlier = some moment →
        moment.state.dispatchOver = true →
          ∀ signal others, eventsOf others = eventsOf later →
            (World.turns settings ⟨signal, moment.state⟩ others).map World.state =
              some final.state) := by
  have calm : Calm state := by
    rw [State.eq_initial_of_begin?_eq_some begins]
    exact .initial settings generators
  have going : state.dispatcher ≠ .stopped .shutdown := by
    rw [State.eq_initial_of_begin?_eq_some begins]
    simp [State.initial]
  have cancelled_iff : (final.state.gatherAll.report settings).cancelled = true ↔
      World.MeetsSignal settings ⟨raised, state⟩ turns := by
    rw [State.cancelled_iff, State.gatherAll_dispatcher]
    exact World.stopped_iff_meetsSignal heeds calm going takes
  refine ⟨?_, ⟨World.length_eventsOf_le_of_turns begins takes,
    World.exists_event_of_not_isComplete begins takes⟩, ?_, ?_, cancelled_iff, ?_, ?_⟩
  · rintro earlier later moment rfl reaches isRaised
    obtain ⟨other, reached, onwards⟩ := World.turns_append_eq_some_iff.mp takes
    obtain rfl : moment = other := Option.some.inj (reaches.symm.trans reached)
    exact (World.refuses_of_turns heeds isRaised onwards).dispatched
  · intro index cell found
    obtain ⟨happenings, runs, _⟩ := World.exists_run_of_turns takes
    obtain ⟨_, _, item⟩ := (World.traces_of_run begins runs).item_of_present found
    exact item.waits
  · intro complete index generator known
    exact World.outcome_of_turns begins takes complete known
  · intro complete
    have finished : final.state.dispatchOver = true := by
      rw [State.isComplete, Bool.and_eq_true, State.gatherAll_dispatchOver] at complete
      exact complete.1
    exact cancelled_iff.trans
      (World.meetsSignal_iff_of_dispatchOver heeds calm going takes finished)
  · rintro earlier later moment rfl reaches finished signal others same
    obtain ⟨other, reached, onwards⟩ := World.turns_append_eq_some_iff.mp takes
    obtain rfl : moment = other := Option.some.inj (reaches.symm.trans reached)
    have calmThen := World.calm_of_turns begins reaches
    rw [World.map_state_turns_of_dispatchOver calmThen finished signal others, same,
      ← World.map_state_turns_of_dispatchOver calmThen finished moment.raised later, onwards]
    rfl

/-- Two slots for four items: the signal is raised at the instant at which the
second item gives its slot back, so the third one is not started, and the first
one still makes its second attempt. -/
theorem shutdown_stops_dispatch_at_a_free_slot :
    let settings : Settings :=
      { concurrency := 2, mode := .failSoft, policy := ⟨2, .none⟩, classifier := .standard,
        heedsShutdown := true }
    let generators := List.replicate 4 (Random.Generator.ofSeed 7)
    let start : State Nat Api.Error := .initial settings generators
    let turns : List (Turn Nat Api.Error) :=
      [.event .dispatch, .event .dispatch, .event (.start 0), .event (.start 1),
        .event (.finish 1 (.returned 5)), .raise, .event .dispatch,
        .event (.finish 0 (.failed (.rejected 503 "busy"))), .event (.resume 0),
        .event (.finish 0 (.returned 3))]
    State.begin? settings generators = some start ∧
      ∃ final, World.turns settings ⟨false, start⟩ turns = some final ∧
        final.state.gatherAll.isComplete = true ∧
        (final.state.gatherAll.report settings).cancelled = true ∧
        (∃ ending, (final.state.gatherAll.report settings).outcomes[0]? =
          some (.ofEnding ending)) ∧
        (final.state.gatherAll.report settings).outcomes[2]? = some .notStarted := by
  intro settings generators start turns
  have begins : State.begin? settings generators = some start := rfl
  have runsOn : (World.turns settings ⟨false, start⟩ turns).any (fun final =>
      final.state.gatherAll.isComplete && final.state.dispatched == 2) = true := by
    decide +kernel
  obtain ⟨final, takes, ends⟩ := (Option.any_eq_true _ _).mp runsOn
  rw [Bool.and_eq_true, beq_iff_eq] at ends
  obtain ⟨complete, dispatched⟩ := ends
  obtain ⟨_, _, _, items, cancelled_iff, _⟩ := shutdown_stops_dispatch rfl begins takes
  have first := items complete 0 _ rfl
  have third := items complete 2 _ rfl
  rw [dispatched, if_pos (by decide)] at first
  rw [dispatched, if_neg (by decide)] at third
  obtain ⟨ending, _, shown⟩ := first
  have meets : World.MeetsSignal settings ⟨false, start⟩ turns := by
    refine ⟨turns.take 6, turns.drop 7, ?_⟩
    have reaches : (World.turns settings ⟨false, start⟩ (turns.take 6)).any (fun moment =>
        moment.raised && decide (moment.state.dispatched < moment.state.cells.size)) = true := by
      decide +kernel
    obtain ⟨moment, reached, stands⟩ := (Option.any_eq_true _ _).mp reaches
    rw [Bool.and_eq_true, decide_eq_true_eq] at stands
    exact ⟨moment, rfl, reached, stands⟩
  exact ⟨begins, final, takes, complete, cancelled_iff.mpr meets, ⟨ending, shown⟩, third.2⟩

end Batch
end TenantLoad
