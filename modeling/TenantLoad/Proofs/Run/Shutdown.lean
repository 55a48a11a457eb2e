import TenantLoad.Proofs.Run.Outcomes
import TenantLoad.Proofs.Tenant.Shutdown

/-!
# Shutdown of a run

All tenants of a run share one signal.  Once it is raised each of them begins
only calls that were left to it at that moment, and a run that shows a
cancelled tenant was interrupted.
-/

namespace TenantLoad
namespace Run

namespace State

variable {settings : Tenant.Settings} {state final : State} {events : List Event}
  {begins : List Begun} {index count : Nat} {generator : Nat → Random.Generator}
  {recorder : Metrics.Recorder} {raised : Bool}

/-- A tenant that is cancelled in the report has ended so. -/
theorem Numbers.exists_cancelled
    {elapsed : Duration}
    {outcome : Tenant.Outcome}
    (numbers : Numbers count state)
    (shown : outcome ∈ (state.report elapsed).tenants)
    (cancelled : outcome.cancelled = true) :
    ∃ tenant, state.tenants[outcome.tenant]? = some tenant ∧ tenant.outcome? = some outcome := by
  obtain ⟨index, found⟩ := List.mem_iff_getElem?.mp shown
  have inside : index < state.tenants.size := by
    rw [numbers.size, ← numbers.length_tenants_report elapsed]
    exact (List.getElem?_eq_some_iff.mp found).1
  have known := Array.getElem?_eq_getElem inside
  rw [numbers.tenants_report known, Option.some.injEq] at found
  cases arrives : arrival? state.tenants[index] with
  | none =>
      rw [arrives] at found
      subst found
      cases cancelled
  | some arrived =>
      rw [arrives, Option.getD_some] at found
      subst found
      rw [tenant_of_arrival? arrives, numbers.index index _ known]
      refine ⟨_, known, ?_⟩
      unfold arrival? at arrives
      split at arrives
      · exact arrives
      · cases arrives

end State

variable {settings : Tenant.Settings} {count : Nat} {generator : Nat → Random.Generator}
  {recorder : Metrics.Recorder} {raised : Bool} {events : List Event} {final : State}
  {begins : List Begun}

/-- From the moment the signal is raised every tenant of a run begins no call
but the columns that are left to the table it adds columns to, and attempts of
the items of its batch that have been dispatched.  A tenant that is reported
cancelled was at work at some moment at which the signal was raised, and then
the run is reported interrupted. -/
theorem shutdown_leaves_what_has_begun
    (whole : ∀ index event, .tenant index event ∈ events → event.isAct = false)
    (runs : (State.initial count generator recorder raised).run settings events =
      some (final, begins)) :
    (∀ earlier later moment calls index before, events = earlier ++ later →
        (State.initial count generator recorder raised).run settings earlier =
          some (moment, calls) →
        moment.raised = true → moment.tenants[index]? = some before →
          ∃ after effects more, begins = calls ++ more ∧
            Share settings index moment final later more before after effects ∧
            ∀ origin call, .call origin call ∈ effects →
              before.MayBegin settings origin call) ∧
      ∀ elapsed outcome, outcome ∈ (final.report elapsed).tenants → outcome.cancelled = true →
        (final.report elapsed).interrupted = true ∧
          ∃ earlier later moment calls tenant, events = earlier ++ later ∧
            (State.initial count generator recorder raised).run settings earlier =
              some (moment, calls) ∧
            moment.raised = true ∧ moment.tenants[outcome.tenant]? = some tenant ∧
              tenant.isOver = false := by
  have numbers := State.numbers_of_run runs
  constructor
  · rintro earlier later moment calls index before rfl reaches isRaised known
    obtain ⟨other, first, more, reached, onwards, rfl⟩ := State.run_append_eq_some_iff.mp runs
    rw [reached] at reaches
    cases reaches
    obtain ⟨after, effects, share⟩ := State.share_of_run onwards known
    refine ⟨after, effects, more, rfl, share, ?_⟩
    have inside : index < count := by
      rw [← (State.numbers_of_run reached).size]
      exact (Array.getElem?_eq_some_iff.mp known).1
    obtain ⟨same, shown, past⟩ :=
      State.share_of_run reached (State.tenants_initial inside generator recorder raised)
    rw [past.known, Option.some.injEq] at known
    subst known
    refine (Tenant.World.mayBegin_of_run past.runs isRaised share.runs ?_).1
    intro event member
    obtain ⟨seen, happened, sees⟩ := List.mem_filterMap.mp member
    cases seen with
    | raise => cases sees
    | tenant other own =>
        simp only [Event.seenBy] at sees
        split at sees
        · cases sees
          exact whole other _ (List.mem_append_right _ happened)
        · cases sees
  · intro elapsed outcome shown cancelled
    obtain ⟨tenant, known, ends⟩ := numbers.exists_cancelled shown cancelled
    have inside : outcome.tenant < count := by
      rw [← numbers.size]
      exact (Array.getElem?_eq_some_iff.mp known).1
    have started := State.tenants_initial inside generator recorder raised
    obtain ⟨same, effects, share⟩ := State.share_of_run runs started
    rw [share.known, Option.some.injEq] at known
    subst known
    obtain ⟨sooner, rest, there, past, split, reaches, isRaised, going⟩ :=
      Tenant.World.raised_of_cancelled share.runs ends cancelled
    obtain ⟨earlier, later, rfl, rfl, rfl⟩ := List.filterMap_eq_append_iff.mp split
    obtain ⟨moment, calls, more, reached, onwards, rfl⟩ :=
      State.run_append_eq_some_iff.mp runs
    obtain ⟨before, passed, reachedToo⟩ := State.share_of_run reached started
    rw [reachedToo.runs] at reaches
    cases reaches
    obtain ⟨_, _, onwardsToo⟩ := State.share_of_run onwards reachedToo.known
    exact ⟨Tenant.World.raised_of_run onwardsToo.runs isRaised, earlier, later, moment, calls,
      before, rfl, reached, isRaised, reachedToo.known, going⟩

/-- Two tenants: the signal is raised while the first one adds a column and
before the second one has begun.  The first one still begins the next column,
which is refused, and the second one is cancelled. -/
theorem shutdown_leaves_what_has_begun_amid_columns :
    let settings : Tenant.Settings :=
      { workload := { tablesPerTenant := 2 }, policy := ⟨3, .none⟩, classifier := .standard }
    let generator (index : Nat) : Random.Generator := .ofSeed (.ofNat index)
    let answer : Event := .tenant 0 (.answered ⟨1⟩ (.returned ⟨200, .nothing⟩))
    let refusal : Event := .tenant 0 (.answered ⟨1⟩ (.failed (.transport "reset")))
    let earlier : List Event := [.tenant 0 (.begin (.returned ())), answer, answer, .raise]
    let later : List Event := [.tenant 1 (.begin (.returned ())), answer, refusal]
    ∃ moment calls before final begins outcome,
      (State.initial 2 generator .empty false).run settings earlier = some (moment, calls) ∧
      moment.tenants[0]? = some before ∧
      (State.initial 2 generator .empty false).run settings (earlier ++ later) =
        some (final, begins) ∧
      begins.length = calls.length + 1 ∧
      (∃ after effects more, begins = calls ++ more ∧
        Share settings 0 moment final later more before after effects ∧
        ∀ origin call, .call origin call ∈ effects → before.MayBegin settings origin call) ∧
      outcome ∈ (final.report (.ofMilliseconds 9)).tenants ∧ outcome.cancelled = true ∧
      (final.report (.ofMilliseconds 9)).interrupted = true := by
  intro settings generator answer refusal earlier later
  obtain ⟨generators, seeded⟩ : ∃ generators, generator = generators := ⟨_, rfl⟩
  rw [seeded]
  have runsOn : ((State.initial 2 generators .empty false).run settings earlier).any
      (fun reached => reached.1.raised && (reached.1.tenants[0]?).isSome &&
        (reached.1.run settings later).any fun ended => ended.2.length == 1 &&
          (ended.1.report (.ofMilliseconds 9)).tenants.any Tenant.Outcome.cancelled) = true := by
    simp [settings, answer, refusal, earlier, later, State.initial, State.run, State.step,
      Tenant.initial_eq, Tenant.State.step, Tenant.State.enter, Tenant.State.signUp,
      Tenant.State.answered, Tenant.State.afterCall, Tenant.State.nextTable,
      Tenant.State.createTable_eq, Tenant.State.addColumns, Tenant.State.stopFor,
      Tenant.State.moveTo, Tenant.State.withTable, Payload.columns, State.arrival?,
      Tenant.State.outcome?, Tenant.Outcome.fail, Tenant.Failure.isCancelled, State.begun,
      Tenant.returning, Tenant.measuredEntry, State.report, Report.arrange, Report.pad,
      List.range_succ]
  obtain ⟨⟨moment, calls⟩, reaches, held⟩ := (Option.any_eq_true _ _).mp runsOn
  simp only [Bool.and_eq_true, Option.any_eq_true, beq_iff_eq, List.any_eq_true,
    Option.isSome_iff_exists] at held
  obtain ⟨⟨isRaised, before, known⟩, ⟨final, more⟩, onwards, counted, outcome, shown,
    cancelled⟩ := held
  have runs : (State.initial 2 generators .empty false).run settings (earlier ++ later) =
      some (final, calls ++ more) :=
    State.run_append_eq_some_iff.mpr ⟨moment, calls, more, reaches, onwards, rfl⟩
  obtain ⟨leaves, reports⟩ := shutdown_leaves_what_has_begun (by
    intro index event member
    simp only [earlier, later, answer, refusal, List.cons_append, List.nil_append,
      List.mem_cons, Event.tenant.injEq, reduceCtorEq, false_or, List.not_mem_nil, or_false] at member
    rcases member with ⟨_, rfl⟩ | ⟨_, rfl⟩ | ⟨_, rfl⟩ | ⟨_, rfl⟩ | ⟨_, rfl⟩ | ⟨_, rfl⟩ <;> rfl)
    runs
  exact ⟨moment, calls, before, final, _, outcome, reaches, known, runs,
    by rw [List.length_append, counted],
    leaves earlier later moment calls 0 before rfl reaches isRaised known, shown, cancelled,
    (reports _ outcome shown cancelled).1⟩

end Run
end TenantLoad
