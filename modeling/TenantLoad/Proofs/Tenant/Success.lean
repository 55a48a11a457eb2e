import TenantLoad.Proofs.Tenant.Delivery
import TenantLoad.Proofs.Tenant.Progress

/-!
# When a tenant succeeds

A tenant that reports no error has done all of its planned work.  Conversely a
tenant whose calls are answered well enough, and that is not shut down, comes to
its end without an error.  A batch that asks for more slots than there can be
is an exception: it crashes before it begins, and the tenant with it.
-/

namespace TenantLoad
namespace Tenant

/-- The service lets a tenant succeed: it answers every single call with a
reply, and reaches one for every item of a batch. -/
structure Grants (settings : Settings) (service : Origin → Api.Attempt) : Prop where
  single : ∀ task ∈ settings.plan, task.isSingle = true →
    (service ⟨task, none, 1⟩).isReturned = true
  items : ∀ task ∈ settings.plan, ∀ index, some index ∈ task.items settings →
    Retry.Reaches settings.policy settings.classifier
      fun attempt => service ⟨task, some index, attempt⟩

/-- A tenant has neither failed nor crashed. -/
def State.Unharmed (state : State) : Prop :=
  state.position ≠ .crashed ∧ ∀ failure, state.position ≠ .ended (some failure)

variable {settings : Settings} {raised : Bool} {state next : State} {effects new : List Effect}
  {ahead : List Task} {part : List Effect} {service : Origin → Api.Attempt}

/-! ## Batches -/

/-- A batch whose items all reach a reply has all of them, unless it is shut
down. -/
theorem Conduct.isOk
    {tables : List Table}
    {batchSettings : Batch.Settings}
    {generators : List Random.Generator}
    {task : Task}
    {errand : Nat → Option Errand}
    {acts : List CallAct}
    {batch : Calls}
    (conduct : Conduct batchSettings generators task errand acts part false batch)
    (serves : Serves settings tables batchSettings generators task errand)
    (complete : batch.isComplete = true)
    (answers : Answers service part)
    (reaches : ∀ index, some index ∈ task.items settings →
      Retry.Reaches batchSettings.policy batchSettings.classifier
        fun attempt => service ⟨task, some index, attempt⟩) :
    ∃ values, (batch.report batchSettings).result = .ok values := by
  obtain ⟨_, _, _, begins, runs, rfl⟩ := id conduct.ran
  have sound := Batch.World.sound_of_isComplete begins runs complete
  have started : ∀ outcome ∈ (batch.report batchSettings).outcomes,
      outcome.isStarted = true → outcome.isSuccess = true := by
    intro outcome member started
    obtain ⟨index, shown⟩ := List.mem_iff_getElem?.mp member
    obtain ⟨purpose, generator, pending, dialogue, sums⟩ := conduct.sums complete shown
    have isItem : some index ∈ task.items settings := by
      rw [serves.items]
      refine List.mem_map_of_mem (List.mem_range.mpr ?_)
      rw [← conduct.length_outcomes complete]
      exact (List.getElem?_eq_some_iff.mp shown).1
    refine sums.isSuccess_of_reaches (reaches index isItem) ?_ started
    intro place within
    have ended := dialogue.mem_endings within
    rw [endings_threadOf, List.mem_filter] at ended
    exact answers.answered _ ended.1
  refine sound.settles.ok_iff.mpr ?_
  intro outcome member
  refine started outcome member ?_
  by_contra unstarted
  obtain rfl : outcome = .notStarted := by
    cases outcome with
    | notStarted => rfl
    | succeeded | failed => exact absurd rfl unstarted
  rcases sound.unstarted member with cancelled | ⟨_, failed, isOutcome, isFailure⟩
  · have stopped := batch.dispatcher_eq_of_cancelled cancelled
    cases (Batch.World.raised_of_run_of_stopped begins runs stopped).2
  · have succeeded := started failed isOutcome
    cases failed with
    | failed failure => cases succeeded rfl
    | succeeded | notStarted => cases isFailure

/-! ## Every run -/

/-- Who is still at work has come to no harm. -/
theorem State.unharmed_of_going
    (going : state.isOver = false) :
    state.Unharmed := by
  constructor <;> intros <;> intro position <;> simp [State.isOver, position] at going

section Unharmed

variable (canBegin : settings.rowBatch.canBegin = true ∧ settings.searchBatch.canBegin = true)
include canBegin

/-- Without a shutdown the work goes on or ends well. -/
theorem Enters.unharmed
    (enters : Enters settings false state ahead next new) :
    next.Unharmed := by
  cases enters with
  | finish => exact ⟨by simp [State.moveTo], by simp [State.moveTo]⟩
  | refuse task later isRaised => cases isRaised
  | call ask later asks => exact State.unharmed_of_going (State.isOver_of_asking asks)
  | batch job later generators works => exact State.unharmed_of_going (State.isOver_of_job works)
  | crash task later crashed tables unfit =>
      rw [canBegin.1, canBegin.2] at unfit
      simp at unfit

/-- A tenant that is answered well enough and not shut down comes to no harm. -/
theorem World.unharmed_of_run
    {index : Nat}
    {generator : Random.Generator}
    {happenings : List Happening}
    {final : World}
    (runs : World.run settings ⟨raised, Tenant.initial index generator⟩ happenings =
      some (final, effects))
    (grants : Grants settings service)
    (unraised : final.raised = false)
    (answers : Answers service effects) :
    final.state.Unharmed := by
  refine (travels_induction
    (motive := fun world effects =>
      world.raised = false → Answers service effects → world.state.Unharmed)
    ?_ ?_ ?_ runs).2 unraised answers
  · rintro raised state effects event next new ⟨done, ahead, past, part, plan, rfl, _, stands⟩ _
      moves isAct unraised answers
    obtain rfl : raised = false := unraised
    obtain ⟨answersBefore, answersNow⟩ := Answers.append_iff.mp answers
    -- A single call has not failed, for the service does not answer so.
    have replied : ∀ ask attempt, state.asking? = some ask →
        (⟨ask.task, none, 1⟩, ask.call, attempt) ∈ endings new → attempt.isReturned = true := by
      intro ask attempt asks ended
      obtain ⟨rfl, sited, _⟩ := stands.of_asking asks
      obtain ⟨later, isAhead, _⟩ := enters_resume false ⟨0, .nothing⟩ asks sited
      have planned : ask.task ∈ settings.plan := by
        rw [plan, isAhead]
        simp
      have answer : attempt = service ⟨ask.task, none, 1⟩ := answersNow.answered _ ended
      rw [answer]
      exact grants.single ask.task planned (state.asks asks sited).1
    cases moves with
    | refuse connection waits isRaised => cases isRaised
    | connect => exact ⟨by simp [State.moveTo], by simp [State.moveTo]⟩
    | unconnected source => cases answersNow.connected _ (List.mem_singleton.mpr rfl)
    | crashUnconnected message => cases answersNow.connected _ (List.mem_singleton.mpr rfl)
    | answer ask duration reply asks =>
        obtain ⟨_, _, enters⟩ := enters_resume false reply asks (stands.of_asking asks).2.1
        exact enters.unharmed canBegin
    | fail ask duration error asks => cases replied ask (.failed error) asks (by simp)
    | crash ask duration message asks => cases replied ask (.crashed message) asks (by simp)
    | act job duration act batch works =>
        exact State.unharmed_of_going (State.isOver_of_job (State.job?_withBatch works batch))
    | turn => cases isAct
    | gathered job values works =>
        obtain ⟨_, _, enters⟩ := enters_afterBatch false works (stands.of_job works).2.1
        exact enters.unharmed canBegin
    | spoiled job failure works complete isError =>
        obtain ⟨rfl, _, later, generators, acts, isAhead, serves, conduct⟩ := stands.of_job works
        obtain ⟨_, _, gathered⟩ := conduct.gatherAll
        have planned : job.task ∈ settings.plan := by
          rw [plan, isAhead]
          simp
        obtain ⟨policy, classifier⟩ := State.settings_of_job works
        have isOk := gathered.isOk serves complete (Answers.append_iff.mp answersBefore).2
          (by rw [policy, classifier]; exact grants.items job.task planned)
        obtain ⟨values, isOk⟩ := isOk
        have both : (Except.ok values : Except Batch.Failure _) = .error failure :=
          isOk.symm.trans isError
        cases both
  · intro _ _
    rw [initial_eq]
    exact ⟨by simp, by simp⟩
  · intro _ _ _ isRaised
    cases isRaised

end Unharmed

theorem Settings.canBegin_of_le
    (rows : settings.workload.rowConcurrency.toNat ≤ Batch.slotLimit)
    (searches : settings.workload.searchConcurrency.toNat ≤ Batch.slotLimit) :
    settings.rowBatch.canBegin = true ∧ settings.searchBatch.canBegin = true :=
  ⟨Batch.Settings.canBegin_of_le rows, Batch.Settings.canBegin_of_le searches⟩

/-- Whose work is over without harm reports no error. -/
theorem State.Unharmed.exists_arrival
    (unharmed : state.Unharmed)
    (ended : state.isOver = true) :
    ∃ outcome, Run.State.arrival? state = some outcome ∧ outcome.error = none := by
  obtain ⟨uncrashed, unfailed⟩ := unharmed
  unfold State.isOver at ended
  unfold Run.State.arrival? State.outcome?
  cases position : state.position with
  | ended failure =>
      cases failure with
      | none => exact ⟨_, rfl, rfl⟩
      | some failure => exact absurd position (unfailed failure)
  | crashed => exact absurd position uncrashed
  | _ => simp [position] at ended

/-- A tenant that reports no error has done all of its work.  One that is
answered well enough, is not shut down and asks for no more slots than there
can be comes to its end, and reports no error. -/
theorem success_is_all_work_done
    {index : Nat}
    {generator : Random.Generator}
    {happenings : List Happening}
    {final : World}
    (runs : World.run settings ⟨raised, Tenant.initial index generator⟩ happenings =
      some (final, effects)) :
    (∀ outcome, Run.State.arrival? final.state = some outcome → outcome.error = none →
      Delivered settings effects outcome) ∧
    (settings.workload.rowConcurrency.toNat ≤ Batch.slotLimit →
      settings.workload.searchConcurrency.toNat ≤ Batch.slotLimit →
      final.raised = false →
      ∀ service, Grants settings service → Answers service effects →
        happenings.countP Happening.isEvent ≤ settings.mostEvents ∧
        (∃ later last new, (∀ happening ∈ later, happening.isEvent = true) ∧
          World.run settings final later = some (last, new) ∧ Answers service new ∧
            last.state.isOver = true) ∧
        (final.state.isOver = true →
          ∃ outcome, Run.State.arrival? final.state = some outcome ∧ outcome.error = none)) := by
  constructor
  · intro outcome arrives succeeded
    obtain ⟨_, _, _, _, journey⟩ := World.travels_of_run runs
    exact journey.delivered (World.reported_of_run runs) (World.tables_eq_of_run runs) arrives
      succeeded
  · intro rows searches unraised service grants answers
    have canBegin := Settings.canBegin_of_le rows searches
    refine ⟨?_, World.exists_completion service runs, ?_⟩
    · exact Nat.le_of_add_right_le (World.countP_isEvent_add_weight_le_of_run runs)
    · intro ended
      exact (World.unharmed_of_run canBegin runs grants unraised answers).exists_arrival ended

/-- Events leave the shutdown signal as it is. -/
theorem World.raised_of_run_of_isEvent
    {world last : World}
    {happenings : List Happening}
    (areEvents : ∀ happening ∈ happenings, happening.isEvent = true)
    (runs : world.run settings happenings = some (last, effects)) :
    last.raised = world.raised := by
  induction happenings generalizing world effects with
  | nil =>
      cases runs
      rfl
  | cons happening happenings inductionHypothesis =>
      obtain ⟨between, first, later, steps, rest, rfl⟩ := run_cons_eq_some_iff.mp runs
      obtain ⟨isEvent, others⟩ := List.forall_mem_cons.mp areEvents
      rw [inductionHypothesis others rest]
      cases happening with
      | raise => cases isEvent
      | event happened =>
          obtain ⟨_, _, same⟩ := Option.map_eq_some_iff.mp steps
          cases same
          rfl

/-- A table with a row and a search whose first attempts fail: the tenant comes
to its end with all of it done. -/
theorem success_is_all_work_done_after_retries :
    let settings : Settings :=
      { workload := { tablesPerTenant := 1, rowsPerTable := 1, searchRequests := 1 },
        policy := ⟨2, .none⟩, classifier := .standard }
    let service (origin : Origin) : Api.Attempt :=
      if origin.item = none ∨ origin.attempt = 2 then .returned ⟨200, .nothing⟩
      else .failed (.transport "reset")
    Grants settings service ∧
    ∃ happenings final effects outcome,
      World.run settings ⟨false, Tenant.initial 0 (.ofSeed 7)⟩ happenings =
        some (final, effects) ∧
      Answers service effects ∧ Run.State.arrival? final.state = some outcome ∧
      outcome.error = none ∧ Delivered settings effects outcome := by
  intro settings service
  have grants : Grants settings service := by
    constructor
    · intro task _ _
      rfl
    · intro task _ index _
      refine ⟨2, by decide, by decide, rfl, ?_⟩
      intro attempt positive before
      obtain rfl : attempt = 1 := by omega
      exact ⟨⟨_, rfl, rfl⟩, fun _ => rfl⟩
  refine ⟨grants, ?_⟩
  obtain ⟨_, completes⟩ := success_is_all_work_done
    (show World.run settings ⟨false, Tenant.initial 0 (.ofSeed 7)⟩ [] = some (_, []) from rfl)
  obtain ⟨_, ⟨later, last, new, areEvents, runs, answers, ended⟩, _⟩ :=
    completes (by decide) (by decide) rfl service grants (.nil service)
  obtain ⟨delivers, ends⟩ := success_is_all_work_done runs
  have unraised : last.raised = false := World.raised_of_run_of_isEvent areEvents runs
  obtain ⟨_, _, arrival⟩ := ends (by decide) (by decide) unraised service grants answers
  obtain ⟨outcome, arrives, succeeded⟩ := arrival ended
  exact ⟨later, last, new, outcome, runs, answers, arrives, succeeded,
    delivers outcome arrives succeeded⟩

/-- With more row slots than there can be a tenant crashes, however well it is
answered. -/
theorem success_fails_beyond_the_slot_limit :
    let settings : Settings :=
      { workload :=
          { tablesPerTenant := 1, rowsPerTable := 1, searchRequests := 1,
            rowConcurrency := 2305843009213693952 },
        policy := ⟨2, .none⟩, classifier := .standard }
    let service (_ : Origin) : Api.Attempt := .returned ⟨200, .nothing⟩
    Grants settings service ∧
    ∃ happenings final effects,
      World.run settings ⟨false, Tenant.initial 0 (.ofSeed 7)⟩ happenings =
        some (final, effects) ∧
      final.raised = false ∧ Answers service effects ∧ final.state.isOver = true ∧
      Run.State.arrival? final.state = none := by
  intro settings service
  have grants : Grants settings service :=
    ⟨fun _ _ _ => rfl, fun _ _ _ _ => ⟨1, by decide, by decide, rfl, by omega⟩⟩
  obtain ⟨table, known, effects, runs, _, _, answers⟩ :=
    World.run_toFirstRows (show 0 < settings.tableCount by decide) 0 (.ofSeed 7) ⟨200, .nothing⟩
  have crashed : (State.insertRows settings table known).1.position = .crashed := by
    rw [State.insertRows_eq]
    rfl
  refine ⟨grants, _, _, effects, runs, rfl, answers, ?_, ?_⟩
  · simp [State.isOver, crashed]
  · simp [Run.State.arrival?, crashed]

end Tenant
end TenantLoad
