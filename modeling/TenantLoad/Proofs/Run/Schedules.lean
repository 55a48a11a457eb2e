import Mathlib.Logic.Relation
import TenantLoad.Proofs.Run.Outcomes
import TenantLoad.Proofs.Timeline
import TenantLoad.Run.TimedRun

/-!
# Schedules

A schedule of a run picks among the jobs that are ready any one that is the
first of its tenant, so the steps of different tenants interleave at will.
When no job is ready the clock goes on to the next wake-up.  The run on a
timeline is one schedule of many, and what a schedule does is always a
sequence of events of the run.
-/

namespace TenantLoad
namespace Run

variable {Memory : Type}

/-- The tenant that a job is of. -/
def Job.tenant : Job → Nat
  | .turn tenant => tenant
  | .event tenant _ => tenant

/-- A service that never raises the shutdown signal. -/
def Service.Calm (service : Service Memory) : Prop :=
  ∀ memory tenant call, (service.respond memory tenant call).1.raises = false

/-- What the end of a call is to the tenant that began it. -/
def Begun.ending (begun : Begun) (response : Response) : Tenant.Event :=
  match begun.item with
  | some item =>
    .batch (TimedRun.measured response.milliseconds) (.finish item response.attempt)
  | none => .answered (TimedRun.measured response.milliseconds) response.attempt

namespace State

variable {settings : Tenant.Settings} {state other next : State} {index : Nat}
  {event : Tenant.Event} {calls : List Begun}

/-- An event does the same to a tenant in two runs in which it stands alike. -/
theorem exists_step_of_alike
    (same : state.tenants[index]? = other.tenants[index]?)
    (signal : state.raised = other.raised)
    (steps : state.step settings (.tenant index event) = some (next, calls)) :
    ∃ following, other.step settings (.tenant index event) = some (following, calls) := by
  obtain ⟨before, after, effects, known, moves, rfl, rfl⟩ := exists_of_step_tenant steps
  rw [same] at known
  rw [signal] at moves
  exact ⟨_, step_tenant known moves⟩

end State

namespace TimedRun

variable {settings : Tenant.Settings} {service : Service Memory} {run other : TimedRun Memory}
  {index turns : Nat} {job : Job}

/-- Run a job. -/
def runJob (settings : Tenant.Settings) (service : Service Memory) (run : TimedRun Memory) :
    Job → TimedRun Memory
  | .turn tenant => run.turn settings service tenant
  | .event tenant event => run.perform settings service tenant event

/-- A run with other jobs ready. -/
def withReady (run : TimedRun Memory) (ready : List Job) : TimedRun Memory :=
  { run with timeline := { run.timeline with ready } }

/-- A run that has waited for the next wake-up. -/
def awaken (run : TimedRun Memory) : TimedRun Memory :=
  { run with timeline := run.timeline.awaken }

/-- What some schedule does next. -/
inductive Advances (settings : Tenant.Settings) (service : Service Memory) :
    TimedRun Memory → TimedRun Memory → Prop where
  /-- A tenant's first ready job runs. -/
  | work (run : TimedRun Memory) (before after : List Job) (job : Job)
      (ready : run.timeline.ready = before ++ job :: after)
      (first : ∀ other ∈ before, other.tenant ≠ job.tenant) :
      Advances settings service run
        (runJob settings service (run.withReady (before ++ after)) job)
  /-- Nothing is ready until the next wake-up. -/
  | wait (run : TimedRun Memory) (idle : run.timeline.ready = []) :
      Advances settings service run run.awaken

/-! ## Turn by turn -/

theorem proceed_of_next?_eq_none
    (still : run.timeline.next? = none) :
    proceed settings service turns run = run := by
  cases turns with
  | zero => rfl
  | succ turns => simp only [proceed, still]

theorem proceed_of_next?_eq_some
    {timeline : Timeline Job}
    (next : run.timeline.next? = some (job, timeline)) :
    proceed settings service (turns + 1) run =
      proceed settings service turns (runJob settings service { run with timeline } job) := by
  cases job <;> simp only [proceed, next, runJob]

/-! ## What lasts while a tenant works -/

/-- A call of a service that leaves the signal alone takes its time and no more. -/
theorem beginCall_of_calm
    (calm : service.Calm)
    (run : TimedRun Memory)
    (begun : Begun) :
    run.beginCall settings service begun =
      { run with
        memory := (service.respond run.memory begun.tenant begun.call).2
        timeline :=
          run.timeline.sleep
            (.event begun.tenant
              (begun.ending (service.respond run.memory begun.tenant begun.call).1))
            (service.respond run.memory begun.tenant begun.call).1.milliseconds } := by
  obtain ⟨tenant, item, call⟩ := begun
  cases item <;> simp [beginCall, calm run.memory tenant call, Begun.ending]

/-- A relation between two runs that lasts while one tenant does the same in
both. -/
structure Kept (settings : Tenant.Settings) (service : Service Memory) (index : Nat)
    (related : TimedRun Memory → TimedRun Memory → Prop) : Prop where
  /-- The tenant stands alike in both runs. -/
  alike : ∀ run other, related run other →
    run.state.tenants[index]? = other.state.tenants[index]? ∧
      run.state.raised = other.state.raised
  step : ∀ run other event next following calls, related run other →
    run.state.step settings (.tenant index event) = some (next, calls) →
    other.state.step settings (.tenant index event) = some (following, calls) →
    related { run with state := next } { other with state := following }
  call : ∀ run other begun, begun.tenant = index → related run other →
    related (run.beginCall settings service begun) (other.beginCall settings service begun)
  wake : ∀ run other job, job.tenant = index → related run other →
    related { run with timeline := run.timeline.wake job }
      { other with timeline := other.timeline.wake job }
  goOn : ∀ run other job, job.tenant = index → related run other →
    related { run with timeline := run.timeline.goOn job }
      { other with timeline := other.timeline.goOn job }
  sleep : ∀ run other job milliseconds, job.tenant = index → related run other →
    related { run with timeline := run.timeline.sleep job milliseconds }
      { other with timeline := other.timeline.sleep job milliseconds }
  park : ∀ run other, related run other →
    related { run with parked := run.parked ++ [index] }
      { other with parked := other.parked ++ [index] }
  unpark : ∀ run other, related run other → related (run.unpark index) (other.unpark index)

namespace Kept

variable {related : TimedRun Memory → TimedRun Memory → Prop}

theorem followUp
    (kept : Kept settings service index related)
    (holds : related run other)
    (event : Tenant.Event) :
    related (run.followUp settings index event) (other.followUp settings index event) := by
  obtain ⟨same, _⟩ := kept.alike run other holds
  unfold TimedRun.followUp
  rw [← same]
  cases run.state.tenants[index]? with
  | none => exact holds
  | some tenant =>
      dsimp only
      cases batch? settings tenant with
      | none => exact holds
      | some working =>
          obtain ⟨_, batch⟩ := working
          dsimp only
          split
          · split
            · exact kept.goOn _ _ _ rfl holds
            · exact kept.goOn _ _ _ rfl (kept.wake _ _ _ rfl holds)
          · split
            · exact kept.sleep _ _ _ _ rfl holds
            · exact kept.unpark _ _ holds
          · exact holds
          · exact holds
          · exact kept.goOn _ _ _ rfl holds

theorem perform
    (kept : Kept settings service index related)
    (holds : related run other)
    (event : Tenant.Event) :
    related (run.perform settings service index event)
      (other.perform settings service index event) := by
  obtain ⟨same, signal⟩ := kept.alike run other holds
  unfold TimedRun.perform
  cases steps : run.state.step settings (.tenant index event) with
  | none =>
      cases otherwise : other.state.step settings (.tenant index event) with
      | none => exact holds
      | some found =>
          obtain ⟨_, both⟩ := State.exists_step_of_alike same.symm signal.symm otherwise
          rw [steps] at both
          cases both
  | some found =>
      obtain ⟨next, calls⟩ := found
      obtain ⟨following, stepsToo⟩ := State.exists_step_of_alike same signal steps
      obtain ⟨_, _, effects, _, _, _, rfl⟩ := State.exists_of_step_tenant steps
      rw [stepsToo]
      dsimp only
      apply kept.followUp
      have own : ∀ call ∈ State.begun index effects, call.tenant = index :=
        fun _ => State.tenant_of_mem_begun
      -- The calls begin one after the other.
      have stepped := kept.step run other event next following _ holds steps stepsToo
      generalize State.begun index effects = calls at own
      generalize { run with state := next } = after at stepped
      generalize { other with state := following } = behind at stepped
      induction calls generalizing after behind with
      | nil => exact stepped
      | cons call calls inductionHypothesis =>
          exact inductionHypothesis
            (fun later member => own later (List.mem_cons_of_mem _ member)) _ _
            (kept.call _ _ call (own call (List.mem_cons_self ..)) stepped)

/-- What lasts while a tenant works lasts when one of its jobs runs. -/
theorem runJob
    (kept : Kept settings service job.tenant related)
    (holds : related run other) :
    related (run.runJob settings service job) (other.runJob settings service job) := by
  cases job with
  | event tenant event => exact kept.perform holds event
  | turn tenant =>
      obtain ⟨same, signal⟩ := kept.alike run other holds
      change related (run.turn settings service tenant) (other.turn settings service tenant)
      change run.state.tenants[tenant]? = other.state.tenants[tenant]? at same
      unfold turn
      rw [← same, ← signal]
      cases run.state.tenants[tenant]? with
      | none => exact holds
      | some state =>
          dsimp only
          cases nextEvent? settings service run.state.raised state with
          | none => exact kept.park _ _ holds
          | some event => exact kept.perform holds event

end Kept

/-! ## What schedules keep -/

/-- Jobs that sleep are in order, and what has happened is a sequence of events. -/
def Orderly (settings : Tenant.Settings) (start : State) (run : TimedRun Memory) : Prop :=
  run.timeline.InOrder ∧
    ∃ events begins, start.run settings events = some (run.state, begins)

namespace Orderly

variable {start : State}

theorem unpark
    (orderly : run.Orderly settings start)
    (index : Nat) :
    (run.unpark index).Orderly settings start := by
  unfold TimedRun.unpark
  split
  · exact orderly
  · exact orderly

/-- One run beside itself. -/
theorem kept
    (calm : service.Calm)
    (index : Nat) :
    Kept settings service index fun run other =>
      run = other ∧ run.Orderly settings start where
  alike := by
    rintro run _ ⟨rfl, _⟩
    exact ⟨rfl, rfl⟩
  step := by
    rintro run _ event next following calls ⟨rfl, inOrder, events, begins, runs⟩ steps stepsToo
    rw [steps] at stepsToo
    cases stepsToo
    refine ⟨rfl, inOrder, events ++ [.tenant index event], begins ++ calls, ?_⟩
    exact State.run_append_eq_some_iff.mpr ⟨run.state, begins, calls, runs,
      State.run_cons_eq_some_iff.mpr ⟨next, calls, [], steps, rfl, by simp⟩, rfl⟩
  call := by
    rintro run _ begun _ ⟨rfl, inOrder, ran⟩
    rw [beginCall_of_calm calm]
    exact ⟨rfl, inOrder.sleep _ _, ran⟩
  wake := by
    rintro run _ job _ ⟨rfl, orderly⟩
    exact ⟨rfl, orderly⟩
  goOn := by
    rintro run _ job _ ⟨rfl, orderly⟩
    exact ⟨rfl, orderly⟩
  sleep := by
    rintro run _ job milliseconds _ ⟨rfl, inOrder, ran⟩
    exact ⟨rfl, inOrder.sleep _ _, ran⟩
  park := by
    rintro run _ ⟨rfl, orderly⟩
    exact ⟨rfl, orderly⟩
  unpark := by
    rintro run _ ⟨rfl, orderly⟩
    exact ⟨rfl, orderly.unpark index⟩

theorem runJob
    (orderly : run.Orderly settings start)
    (calm : service.Calm)
    (job : Job) :
    (run.runJob settings service job).Orderly settings start :=
  ((kept calm job.tenant).runJob ⟨rfl, orderly⟩).2

theorem awaken
    (orderly : run.Orderly settings start) :
    run.awaken.Orderly settings start :=
  ⟨orderly.1.awaken, orderly.2⟩

theorem of_advances
    (orderly : run.Orderly settings start)
    (calm : service.Calm)
    (advances : Advances settings service run other) :
    other.Orderly settings start := by
  cases advances with
  | work before after job ready first =>
      have popped : (run.withReady (before ++ after)).Orderly settings start := orderly
      exact popped.runJob calm job
  | wait idle => exact orderly.awaken

/-- Every schedule keeps a run orderly. -/
theorem of_reachable
    (orderly : run.Orderly settings start)
    (calm : service.Calm)
    (reaches : Relation.ReflTransGen (Advances settings service) run other) :
    other.Orderly settings start := by
  induction reaches with
  | refl => exact orderly
  | tail _ advances inductionHypothesis => exact inductionHypothesis.of_advances calm advances

end Orderly

/-! ## The run on a timeline -/

/-- The tenants of a run that has not begun, each with its turn to come. -/
def crowd (count : Nat) (generator : Nat → Random.Generator) (recorder : Metrics.Recorder)
    (raised : Bool) (memory : Memory) : TimedRun Memory :=
  { timeline := .start ((List.range count).map Job.turn)
    state := .initial count generator recorder raised
    parked := []
    memory }

theorem orderly_crowd
    {count : Nat}
    {generator : Nat → Random.Generator}
    {recorder : Metrics.Recorder}
    {raised : Bool}
    {memory : Memory} :
    (crowd count generator recorder raised memory).Orderly settings
      (.initial count generator recorder raised) :=
  ⟨Timeline.inOrder_start _, [], [], rfl⟩

/-- The next job is the first that is ready when the run has waited. -/
theorem exists_ready_of_next?_eq_some
    {timeline : Timeline Job}
    (inOrder : run.timeline.InOrder)
    (next : run.timeline.next? = some (job, timeline)) :
    ∃ rest, run.awaken.timeline.ready = [] ++ job :: rest ∧
      ({ run with timeline } : TimedRun Memory) = run.awaken.withReady ([] ++ rest) := by
  rw [Timeline.next?_eq inOrder] at next
  cases awake : run.timeline.awaken.ready with
  | nil => simp [awake] at next
  | cons found rest =>
      simp only [awake, Option.some.injEq, Prod.mk.injEq] at next
      obtain ⟨rfl, rfl⟩ := next
      exact ⟨rest, awake, rfl⟩

/-- A turn is a step of a schedule, after a wait when nothing is ready. -/
theorem reaches_of_next?_eq_some
    {timeline : Timeline Job}
    (inOrder : run.timeline.InOrder)
    (next : run.timeline.next? = some (job, timeline)) :
    Relation.ReflTransGen (Advances settings service) run
      (runJob settings service { run with timeline } job) := by
  obtain ⟨rest, awake, same⟩ := exists_ready_of_next?_eq_some inOrder next
  rw [same]
  refine .tail ?_ (.work run.awaken [] rest job awake (by simp))
  cases ready : run.timeline.ready with
  | nil => exact .single (.wait run ready)
  | cons first others =>
      have unchanged : run.awaken = run := by
        obtain ⟨⟨now, jobs, sleeping⟩, state, parked, memory⟩ := run
        cases ready
        rfl
      rw [unchanged]

/-- The run on a timeline is one schedule. -/
theorem reaches_proceed
    {start : State}
    (calm : service.Calm)
    (orderly : run.Orderly settings start)
    (turns : Nat) :
    Relation.ReflTransGen (Advances settings service) run
      (proceed settings service turns run) := by
  induction turns generalizing run with
  | zero => exact .refl
  | succ turns inductionHypothesis =>
      cases next : run.timeline.next? with
      | none => rw [proceed_of_next?_eq_none next]
      | some found =>
          obtain ⟨job, timeline⟩ := found
          rw [proceed_of_next?_eq_some next]
          have reaches : Relation.ReflTransGen (Advances settings service) run
              (runJob settings service { run with timeline } job) :=
            reaches_of_next?_eq_some orderly.1 next
          exact reaches.trans (inductionHypothesis (orderly.of_reachable calm reaches))

/-- What the run on a timeline comes to is a sequence of events. -/
theorem exists_run_ofService
    {memory : Memory}
    {generator : Nat → Random.Generator}
    {recorder : Metrics.Recorder}
    {raised : Bool}
    (calm : service.Calm) :
    ∃ events begins,
      (State.initial settings.workload.tenants.toNat generator recorder raised).run settings
          events =
        some ((ofService settings service memory generator recorder raised).state, begins) :=
  (orderly_crowd.of_reachable calm
    (reaches_proceed calm orderly_crowd (turnLimit settings))).2

end TimedRun
end Run
end TenantLoad
