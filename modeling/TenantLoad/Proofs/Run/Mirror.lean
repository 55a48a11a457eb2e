import TenantLoad.Proofs.Run.Buckets
import TenantLoad.Proofs.Run.Schedules

/-!
# One tenant of a run on its own

A run of all tenants, as one of them sees it, is a run of that tenant alone:
its own jobs in their order, its own state and what the service knows of it.
Jobs of other tenants do not show there, and its own jobs do the same in both
runs, as long as the service answers every tenant for itself.
-/

namespace TenantLoad
namespace Run

open TenantLoad.Tenant (Effect)

variable {Memory View : Type}

/-- Whether a job is of a tenant. -/
def Job.isOf (index : Nat) (job : Job) : Bool := decide (job.tenant = index)

theorem Job.isOf_eq_true
    {index : Nat}
    (job : Job)
    (own : job.tenant = index) :
    job.isOf index = true :=
  decide_eq_true own

theorem Job.isOf_eq_false
    {index : Nat}
    (job : Job)
    (different : job.tenant ≠ index) :
    job.isOf index = false :=
  decide_eq_false different

/-- A service that answers every tenant by what it has seen of that tenant. -/
structure Service.Separate (service : Service Memory) (view : Nat → Memory → View) : Prop where
  /-- The answer and its time depend on the tenant's view. -/
  answer : ∀ memory other index call, view index memory = view index other →
    (service.respond memory index call).1 = (service.respond other index call).1
  /-- So does what the tenant's call adds to the view. -/
  own : ∀ memory other index call, view index memory = view index other →
    view index (service.respond memory index call).2 =
      view index (service.respond other index call).2
  /-- A call of another tenant adds nothing to it. -/
  others : ∀ memory index other call, other ≠ index →
    view index (service.respond memory other call).2 = view index memory

namespace State

variable {settings : Tenant.Settings} {state alone next following : State} {index : Nat}
  {event : Tenant.Event} {calls : List Begun}

/-- An event of a tenant that stands alike in two runs leaves it alike in both,
with the same entries recorded. -/
theorem exists_effects_of_steps
    (same : alone.tenants[index]? = state.tenants[index]?)
    (signal : alone.raised = state.raised)
    (steps : state.step settings (.tenant index event) = some (next, calls))
    (stepsToo : alone.step settings (.tenant index event) = some (following, calls)) :
    following.tenants[index]? = next.tenants[index]? ∧ following.raised = next.raised ∧
      ∃ effects, next.recorder = recordAll state.recorder effects ∧
        following.recorder = recordAll alone.recorder effects := by
  obtain ⟨before, after, effects, known, moves, rfl, rfl⟩ := exists_of_step_tenant steps
  obtain ⟨_, _, _, knownToo, movesToo, rfl, _⟩ := exists_of_step_tenant stepsToo
  rw [same, known, Option.some.injEq] at knownToo
  subst knownToo
  rw [signal, moves] at movesToo
  cases movesToo
  have inside := (Array.getElem?_eq_some_iff.mp known).1
  have insideToo := (Array.getElem?_eq_some_iff.mp (same.trans known)).1
  refine ⟨?_, signal, effects, rfl, rfl⟩
  rw [Array.getElem?_setIfInBounds_self_of_lt inside,
    Array.getElem?_setIfInBounds_self_of_lt insideToo]

/-- An event of one tenant leaves the others as they are. -/
theorem tenants_of_step_other
    {other : Nat}
    (different : other ≠ index)
    (steps : state.step settings (.tenant other event) = some (next, calls)) :
    next.tenants[index]? = state.tenants[index]? ∧ next.raised = state.raised := by
  obtain ⟨before, after, effects, known, moves, rfl, rfl⟩ := exists_of_step_tenant steps
  exact ⟨Array.getElem?_setIfInBounds_ne different, rfl⟩

end State

namespace TimedRun

/-- A run of one tenant that mirrors what a run of all tenants is to it. -/
structure Mirrors (view : Nat → Memory → View) (index : Nat) (run alone : TimedRun Memory) :
    Prop where
  inOrder : run.timeline.InOrder
  timeline : alone.timeline = run.timeline.only (Job.isOf index)
  tenant : alone.state.tenants[index]? = run.state.tenants[index]?
  raised : alone.state.raised = run.state.raised
  parked : alone.parked.contains index = run.parked.contains index
  memory : view index alone.memory = view index run.memory

namespace Mirrors

variable {settings : Tenant.Settings} {service : Service Memory} {view : Nat → Memory → View}
  {run alone : TimedRun Memory} {index other : Nat} {job : Job}

/-! ## Jobs of other tenants -/

theorem unpark_other
    (mirrors : Mirrors view index run alone)
    (different : other ≠ index) :
    Mirrors view index (run.unpark other) alone := by
  unfold TimedRun.unpark
  split
  · refine ⟨mirrors.inOrder, ?_, mirrors.tenant, mirrors.raised, ?_, mirrors.memory⟩
    · rw [Timeline.only_wake_of_not_mine (Job.isOf_eq_false (.turn other) different)]
      exact mirrors.timeline
    · rw [mirrors.parked]
      simp [Ne.symm different]
  · exact mirrors

/-- What another tenant does leaves the mirrored run as it is. -/
theorem kept_other
    (calm : service.Calm)
    (separate : service.Separate view)
    (different : other ≠ index) :
    Kept settings service other fun run same =>
      run = same ∧ Mirrors view index run alone where
  alike := by
    rintro run _ ⟨rfl, _⟩
    exact ⟨rfl, rfl⟩
  step := by
    rintro run _ event next following calls ⟨rfl, mirrors⟩ steps stepsToo
    rw [steps] at stepsToo
    cases stepsToo
    obtain ⟨tenant, raised⟩ := State.tenants_of_step_other different steps
    exact ⟨rfl, mirrors.inOrder, mirrors.timeline, mirrors.tenant.trans tenant.symm,
      mirrors.raised.trans raised.symm, mirrors.parked, mirrors.memory⟩
  call := by
    rintro run _ begun rfl ⟨rfl, mirrors⟩
    rw [beginCall_of_calm calm]
    refine ⟨rfl, mirrors.inOrder.sleep _ _, ?_, mirrors.tenant, mirrors.raised, mirrors.parked,
      ?_⟩
    · rw [Timeline.only_sleep_of_not_mine (Job.isOf_eq_false (.event begun.tenant _) different)]
      exact mirrors.timeline
    · rw [separate.others _ _ _ _ different]
      exact mirrors.memory
  wake := by
    rintro run _ job rfl ⟨rfl, mirrors⟩
    refine ⟨rfl, mirrors.inOrder, ?_, mirrors.tenant, mirrors.raised, mirrors.parked,
      mirrors.memory⟩
    rw [Timeline.only_wake_of_not_mine (Job.isOf_eq_false job different)]
    exact mirrors.timeline
  goOn := by
    rintro run _ job rfl ⟨rfl, mirrors⟩
    refine ⟨rfl, mirrors.inOrder, ?_, mirrors.tenant, mirrors.raised, mirrors.parked,
      mirrors.memory⟩
    rw [Timeline.only_goOn_of_not_mine (Job.isOf_eq_false job different)]
    exact mirrors.timeline
  sleep := by
    rintro run _ job milliseconds rfl ⟨rfl, mirrors⟩
    refine ⟨rfl, mirrors.inOrder.sleep _ _, ?_, mirrors.tenant, mirrors.raised, mirrors.parked,
      mirrors.memory⟩
    rw [Timeline.only_sleep_of_not_mine (Job.isOf_eq_false job different)]
    exact mirrors.timeline
  park := by
    rintro run _ ⟨rfl, mirrors⟩
    refine ⟨rfl, mirrors.inOrder, mirrors.timeline, mirrors.tenant, mirrors.raised, ?_,
      mirrors.memory⟩
    rw [mirrors.parked]
    simp [Ne.symm different]
  unpark := by
    rintro run _ ⟨rfl, mirrors⟩
    exact ⟨rfl, mirrors.unpark_other different⟩

/-- A job of another tenant leaves the mirrored run as it is. -/
theorem runJob_other
    (mirrors : Mirrors view index run alone)
    (calm : service.Calm)
    (separate : service.Separate view)
    (different : job.tenant ≠ index) :
    Mirrors view index (run.runJob settings service job) alone :=
  ((kept_other calm separate different).runJob ⟨rfl, mirrors⟩).2

/-! ## Jobs of the tenant -/

theorem unpark_own
    (mirrors : Mirrors view index run alone) :
    Mirrors view index (run.unpark index) (alone.unpark index) := by
  unfold TimedRun.unpark
  rw [mirrors.parked]
  split
  · refine ⟨mirrors.inOrder, ?_, mirrors.tenant, mirrors.raised, ?_, mirrors.memory⟩
    · have own : (Job.turn index).isOf index = true := Job.isOf_eq_true _ rfl
      rw [Timeline.only_wake_of_mine own, mirrors.timeline]
    · simp
  · exact mirrors

/-- Both runs have recorded the same since they had the given entries. -/
def RecordedAlike (recorder aloneRecorder : Metrics.Recorder) (run alone : TimedRun Memory) :
    Prop :=
  ∃ effects, run.state.recorder = State.recordAll recorder effects ∧
    alone.state.recorder = State.recordAll aloneRecorder effects

/-- What the tenant does is mirrored. -/
theorem kept_own
    (calm : service.Calm)
    (separate : service.Separate view)
    (recorder aloneRecorder : Metrics.Recorder) :
    Kept settings service index fun run alone =>
      Mirrors view index run alone ∧ RecordedAlike recorder aloneRecorder run alone where
  alike := fun run alone holds => ⟨holds.1.tenant.symm, holds.1.raised.symm⟩
  step := by
    rintro run alone event next following calls ⟨mirrors, effects, recorded, recordedToo⟩ steps
      stepsToo
    obtain ⟨tenant, raised, more, further, furtherToo⟩ :=
      State.exists_effects_of_steps mirrors.tenant mirrors.raised steps stepsToo
    refine ⟨⟨mirrors.inOrder, mirrors.timeline, tenant, raised, mirrors.parked, mirrors.memory⟩,
      effects ++ more, ?_, ?_⟩
    · rw [State.recordAll_append, ← recorded]
      exact further
    · rw [State.recordAll_append, ← recordedToo]
      exact furtherToo
  call := by
    rintro run alone begun rfl ⟨mirrors, recorded⟩
    rw [beginCall_of_calm calm, beginCall_of_calm calm,
      separate.answer _ _ _ begun.call mirrors.memory]
    refine ⟨⟨mirrors.inOrder.sleep _ _, ?_, mirrors.tenant, mirrors.raised, mirrors.parked,
      separate.own _ _ _ _ mirrors.memory⟩, recorded⟩
    have own (event : Tenant.Event) : (Job.event begun.tenant event).isOf begun.tenant = true :=
      Job.isOf_eq_true _ rfl
    rw [Timeline.only_sleep_of_mine mirrors.inOrder (own _), mirrors.timeline]
  wake := by
    rintro run alone job own ⟨mirrors, recorded⟩
    refine ⟨⟨mirrors.inOrder, ?_, mirrors.tenant, mirrors.raised, mirrors.parked,
      mirrors.memory⟩, recorded⟩
    rw [Timeline.only_wake_of_mine (Job.isOf_eq_true job own), mirrors.timeline]
  goOn := by
    rintro run alone job own ⟨mirrors, recorded⟩
    refine ⟨⟨mirrors.inOrder, ?_, mirrors.tenant, mirrors.raised, mirrors.parked,
      mirrors.memory⟩, recorded⟩
    rw [Timeline.only_goOn_of_mine (Job.isOf_eq_true job own), mirrors.timeline]
  sleep := by
    rintro run alone job milliseconds own ⟨mirrors, recorded⟩
    refine ⟨⟨mirrors.inOrder.sleep _ _, ?_, mirrors.tenant, mirrors.raised, mirrors.parked,
      mirrors.memory⟩, recorded⟩
    rw [Timeline.only_sleep_of_mine mirrors.inOrder (Job.isOf_eq_true job own), mirrors.timeline]
  park := by
    rintro run alone ⟨mirrors, recorded⟩
    refine ⟨⟨mirrors.inOrder, mirrors.timeline, mirrors.tenant, mirrors.raised, ?_,
      mirrors.memory⟩, recorded⟩
    simp
  unpark := by
    rintro run alone ⟨mirrors, recorded⟩
    refine ⟨mirrors.unpark_own, ?_⟩
    unfold TimedRun.unpark
    split <;> split <;> exact recorded

/-- A job of the tenant does the same in both runs. -/
theorem runJob_own
    (mirrors : Mirrors view job.tenant run alone)
    (calm : service.Calm)
    (separate : service.Separate view) :
    Mirrors view job.tenant (run.runJob settings service job)
        (alone.runJob settings service job) ∧
      RecordedAlike run.state.recorder alone.state.recorder
        (run.runJob settings service job) (alone.runJob settings service job) :=
  (kept_own calm separate run.state.recorder alone.state.recorder).runJob
    ⟨mirrors, [], rfl, rfl⟩

/-! ## Steps of a schedule -/

/-- Without a job of another tenant the ready jobs of this one are the same. -/
theorem withReady_other
    {before after : List Job}
    (mirrors : Mirrors view index run alone)
    (ready : run.timeline.ready = before ++ job :: after)
    (different : job.tenant ≠ index) :
    Mirrors view index (run.withReady (before ++ after)) alone := by
  refine ⟨mirrors.inOrder, ?_, mirrors.tenant, mirrors.raised, mirrors.parked, mirrors.memory⟩
  rw [mirrors.timeline]
  simp [withReady, Timeline.only, ready, Job.isOf, different]

/-- The first ready job of the tenant is the next job of the mirrored run. -/
theorem exists_next_own
    {before after : List Job}
    (mirrors : Mirrors view job.tenant run alone)
    (ready : run.timeline.ready = before ++ job :: after)
    (first : ∀ other ∈ before, other.tenant ≠ job.tenant) :
    ∃ timeline, alone.timeline.next? = some (job, timeline) ∧
      Mirrors view job.tenant (run.withReady (before ++ after)) { alone with timeline } := by
  have none : before.filter (Job.isOf job.tenant) = [] := by
    rw [List.filter_eq_nil_iff]
    intro other member
    simpa [Job.isOf] using first other member
  refine ⟨(run.withReady (before ++ after)).timeline.only (Job.isOf job.tenant), ?_,
    ⟨mirrors.inOrder, rfl, mirrors.tenant, mirrors.raised, mirrors.parked, mirrors.memory⟩⟩
  rw [mirrors.timeline]
  simp [withReady, Timeline.only, ready, none, Job.isOf, Timeline.next?]

/-- When the whole run has waited, the mirrored run has the same next job. -/
theorem awaken
    (mirrors : Mirrors view index run alone) :
    ∃ timeline, timeline.next? = alone.timeline.next? ∧
      Mirrors view index run.awaken { alone with timeline } := by
  refine ⟨run.timeline.awaken.only (Job.isOf index), ?_,
    ⟨mirrors.inOrder.awaken, rfl, mirrors.tenant, mirrors.raised, mirrors.parked,
      mirrors.memory⟩⟩
  rw [mirrors.timeline, Timeline.next?_only_awaken mirrors.inOrder]

end Mirrors

end TimedRun
end Run
end TenantLoad
