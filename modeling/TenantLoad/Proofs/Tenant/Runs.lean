import TenantLoad.Proofs.Tenant.Moves

/-!
# Runs of a tenant

What holds at first and is kept by every event holds after every run.  A turn
of a batch is a sequence of its acts, of which only the first one shows, so
nothing needs to be proved of turns.
-/

namespace TenantLoad
namespace Tenant

namespace State

variable {settings : Settings} {state : State} {job : Job}

theorem job?_withBatch
    (works : state.job? settings = some job)
    (batch : Calls) :
    (state.withBatch batch).job? settings = some { job with batch } := by
  unfold job? at works
  unfold withBatch
  cases position : state.position <;> simp only [position] at works ⊢ <;> cases works <;> rfl

theorem withBatch_withBatch
    (state : State)
    (first second : Calls) :
    (state.withBatch first).withBatch second = state.withBatch second := by
  unfold withBatch
  cases position : state.position <;> simp only [position, moveTo]

@[simp] theorem tables_withBatch
    (state : State)
    (batch : Calls) :
    (state.withBatch batch).tables = state.tables := by
  unfold withBatch
  cases position : state.position <;> rfl

theorem withBatch_self
    (works : state.job? settings = some job) :
    state.withBatch job.batch = state := by
  obtain ⟨index, identity, generator, tables, position⟩ := state
  cases position <;> cases works <;> rfl

/-- A batch at another place is the same step of the work. -/
theorem ahead_withBatch
    (settings : Settings)
    (state : State)
    (batch : Calls) :
    (state.withBatch batch).ahead settings = state.ahead settings := by
  unfold withBatch ahead
  cases position : state.position <;> simp only [position] <;> rfl

theorem sited_withBatch
    (sited : state.Sited settings)
    (batch : Calls) :
    (state.withBatch batch).Sited settings := by
  unfold Sited at sited
  unfold withBatch Sited
  cases position : state.position <;> simp only [position] at sited ⊢ <;> exact sited

end State

/-- Whether an event is a turn of a batch. -/
def Event.isTurn : Event → Bool
  | .batch .. => true
  | _ => false

/-- Whether an event is a single act of a batch, which another thread could
part from the rest of its turn. -/
def Event.isAct : Event → Bool
  | .act .. => true
  | _ => false

namespace World

variable {settings : Settings} {world final : World} {effects : List Effect}
  {happenings : List Happening}

/-- A run through its first happening. -/
theorem run_cons_eq_some_iff
    {happening : Happening}
    {rest : List Happening} :
    world.run settings (happening :: rest) = some (final, effects) ↔
      ∃ between first later, world.step settings happening = some (between, first) ∧
        between.run settings rest = some (final, later) ∧ effects = first ++ later := by
  simp only [run, Option.bind_eq_bind, Option.bind_eq_some_iff, Prod.exists, Option.pure_def,
    Option.some.injEq, Prod.mk.injEq]
  constructor
  · rintro ⟨between, first, steps, last, later, runs, rfl, rfl⟩
    exact ⟨between, first, later, steps, runs, rfl⟩
  · rintro ⟨between, first, later, steps, runs, rfl⟩
    exact ⟨between, first, steps, final, later, runs, rfl, rfl⟩

/-- A run through what happens first and what happens later. -/
theorem run_append_eq_some_iff
    {earlier later : List Happening} :
    world.run settings (earlier ++ later) = some (final, effects) ↔
      ∃ between first second, world.run settings earlier = some (between, first) ∧
        between.run settings later = some (final, second) ∧ effects = first ++ second := by
  induction earlier generalizing world effects with
  | nil => simp [run]
  | cons happening earlier inductionHypothesis =>
      simp only [List.cons_append, run_cons_eq_some_iff]
      constructor
      · rintro ⟨next, first, rest, steps, runs, rfl⟩
        obtain ⟨between, second, third, runsSecond, runsThird, rfl⟩ := inductionHypothesis.mp runs
        exact ⟨between, first ++ second, third, ⟨next, first, second, steps, runsSecond, rfl⟩,
          runsThird, (List.append_assoc ..).symm⟩
      · rintro ⟨between, _, third, ⟨next, first, second, steps, runsSecond, rfl⟩, runsThird, rfl⟩
        exact ⟨next, first, second ++ third, steps,
          inductionHypothesis.mpr ⟨between, second, third, runsSecond, runsThird, rfl⟩,
          List.append_assoc ..⟩

section Induction

variable {motive : World → List Effect → Prop}
  (event : ∀ raised state effects event next new,
    motive ⟨raised, state⟩ effects → Moves settings raised state event next new →
      event.isTurn = false → motive ⟨raised, next⟩ (effects ++ new))
include event

/-- What every act of a batch keeps is kept by acts that do not show. -/
theorem quiet_induction
    {raised : Bool}
    {state : State}
    {job : Job}
    {quiet : List CallAct}
    {next : Calls}
    (works : state.job? settings = some job)
    (areQuiet : ∀ act ∈ quiet, act.isQuiet = true)
    (takes : Batch.State.Takes job.settings raised quiet job.batch next)
    (soFar : motive ⟨raised, state⟩ effects) :
    motive ⟨raised, state.withBatch next⟩ effects := by
  induction quiet generalizing state job with
  | nil =>
      cases takes
      rw [State.withBatch_self works]
      exact soFar
  | cons act quiet inductionHypothesis =>
      obtain ⟨between, enabled, rest⟩ := takes.of_cons
      have moved := event raised state effects _ _ _ soFar
        (.act job ⟨0⟩ act between works enabled) rfl
      rw [itemEffects_of_isQuiet (areQuiet act (List.mem_cons_self ..)), List.append_nil] at moved
      have others : ∀ act ∈ quiet, act.isQuiet = true :=
        fun other member => areQuiet other (List.mem_cons_of_mem _ member)
      have last := inductionHypothesis (State.job?_withBatch works between) others rest moved
      rwa [State.withBatch_withBatch] at last

/-- What every event but a turn keeps is kept by turns. -/
theorem turn_induction
    {raised : Bool}
    {state next : State}
    {happened : Event}
    {new : List Effect}
    (moves : Moves settings raised state happened next new)
    (soFar : motive ⟨raised, state⟩ effects) :
    motive ⟨raised, next⟩ (effects ++ new) := by
  cases moves with
  | turn job duration turn next works enabled =>
      obtain ⟨quiet, areQuiet, takes⟩ := Batch.State.takes_of_step enabled
      obtain ⟨between, opens, rest⟩ := takes.of_cons
      have opened := event raised state effects _ _ _ soFar
        (.act job duration turn.opening between works opens) rfl
      have last := quiet_induction event (State.job?_withBatch works between) areQuiet rest opened
      rwa [State.withBatch_withBatch] at last
  | refuse connection waiting isRaised =>
      exact event _ _ _ _ _ _ soFar (.refuse connection waiting isRaised) rfl
  | connect waiting isUnraised =>
      exact event _ _ _ _ _ _ soFar (.connect waiting isUnraised) rfl
  | unconnected source waiting isUnraised =>
      exact event _ _ _ _ _ _ soFar (.unconnected source waiting isUnraised) rfl
  | crashUnconnected message waiting isUnraised =>
      exact event _ _ _ _ _ _ soFar (.crashUnconnected message waiting isUnraised) rfl
  | answer ask duration reply asks =>
      exact event _ _ _ _ _ _ soFar (.answer ask duration reply asks) rfl
  | fail ask duration error asks =>
      exact event _ _ _ _ _ _ soFar (.fail ask duration error asks) rfl
  | crash ask duration message asks =>
      exact event _ _ _ _ _ _ soFar (.crash ask duration message asks) rfl
  | act job duration act next works enabled =>
      exact event _ _ _ _ _ _ soFar (.act job duration act next works enabled) rfl
  | gathered job values works complete isOk =>
      exact event _ _ _ _ _ _ soFar (.gathered job values works complete isOk) rfl
  | spoiled job failure works complete isError =>
      exact event _ _ _ _ _ _ soFar (.spoiled job failure works complete isError) rfl

/-- What holds at first and is kept by the signal and by every event but a turn
holds after every run. -/
theorem run_induction
    (start : motive world [])
    (raise : ∀ current effects, motive current effects →
      motive { current with raised := true } effects)
    (runs : world.run settings happenings = some (final, effects)) :
    motive final effects := by
  induction happenings using List.reverseRecOn generalizing final effects with
  | nil =>
      cases runs
      exact start
  | append_singleton past happening inductionHypothesis =>
      obtain ⟨current, first, second, before, last, rfl⟩ := run_append_eq_some_iff.mp runs
      have soFar := inductionHypothesis before
      obtain ⟨_, new, _, steps, ended, rfl⟩ := run_cons_eq_some_iff.mp last
      cases ended
      rw [List.append_nil]
      cases happening with
      | raise =>
          cases steps
          rw [List.append_nil]
          exact raise _ _ soFar
      | event happened =>
          obtain ⟨⟨next, shown⟩, steps, same⟩ := Option.map_eq_some_iff.mp steps
          cases same
          exact turn_induction event (Moves.of_step steps) soFar

end Induction

end World

end Tenant
end TenantLoad
