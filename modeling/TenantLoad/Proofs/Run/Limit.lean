import TenantLoad.Proofs.Run.Rest
import TenantLoad.Proofs.Tenant.Progress

/-!
# A run takes no more turns than its limit

Every job uses up more of the work before a tenant than it leaves as jobs.  So
every schedule comes to rest, and the run on a timeline does so within the turns
that it is given.
-/

namespace TenantLoad
namespace Run

variable {Memory : Type}

/-- An event of a batch uses up more than it adds. -/
theorem Adds.weight_le
    {settings : Batch.Settings}
    {raised parked : Bool}
    {index : Nat}
    {batch next : Tenant.Calls}
    {event : Batch.Event Api.Reply Api.Error}
    {added : List Job}
    (adds : Adds index parked batch next event added)
    (enabled : batch.step settings raised event = some next) :
    next.weight settings + added.length ≤ batch.weight settings := by
  have fewer := Batch.State.weight_lt_of_step enabled
  cases adds with
  | launch generator going cells =>
      exact Batch.State.weight_add_two_le_of_dispatch enabled going
  | stop | attempt | rest => exact fewer
  | settle =>
      split
      · exact fewer
      · exact Nat.le_of_lt fewer

/-- An event uses up at least as many of the events before its tenant as it
leaves jobs. -/
theorem Leaves.weight_le
    {settings : Tenant.Settings}
    {raised parked : Bool}
    {index : Nat}
    {before after : Tenant.State}
    {event : Tenant.Event}
    {added : List Job}
    (leaves : Leaves settings raised index parked before event after added)
    (fewer : after.weight settings < before.weight settings) :
    after.weight settings + added.length ≤ before.weight settings := by
  cases leaves with
  | ended => exact Nat.le_of_lt fewer
  | call | batch => exact fewer
  | turn job duration next works enabled adds =>
      have lighter := adds.weight_le enabled
      rw [Tenant.State.weight_withBatch works, Tenant.State.weight_of_job works]
      omega

namespace TimedRun

variable {settings : Tenant.Settings} {service : Service Memory} {run other : TimedRun Memory}
  {job : Job} {turns : Nat}

/-- The jobs of a run and the most events that its tenants have before them. -/
def weight (settings : Tenant.Settings) (run : TimedRun Memory) : Nat :=
  (run.state.tenants.toList.map (Tenant.State.weight settings)).sum + run.timeline.jobs.length

/-- What a job comes to leaves no more before the run. -/
theorem Works.weight_le
    (placed : run.Placed settings)
    (works : Works settings service run job other) :
    other.weight settings ≤ run.weight settings := by
  cases works with
  | nothing | park => exact Nat.le_refl _
  | perform index before after event effects added known moves cause leaves follows =>
      have listed : run.state.tenants.toList[index]? = some before := by simpa using known
      have traded := Batch.sum_map_set (Tenant.State.weight settings) after listed
      obtain ⟨_, _, stands⟩ := placed index before known
      have lighter := leaves.weight_le (moves.weight_lt stands)
      rw [weight, weight, follows.tenants, Array.toList_setIfInBounds, follows.jobs.length_eq,
        List.length_append]
      omega

/-- A job that runs is one fewer before the run. -/
theorem Regular.weight_runJob_lt
    {before after : List Job}
    (regular : run.Regular settings)
    (calm : service.Calm)
    (ready : run.timeline.ready = before ++ job :: after) :
    ((run.withReady (before ++ after)).runJob settings service job).weight settings <
      run.weight settings := by
  obtain ⟨popped, isEvent, same⟩ := regular.withReady ready
  have works := (works_runJob calm popped.placed isEvent).weight_le popped.placed
  refine Nat.lt_of_le_of_lt works ?_
  rw [weight, weight, same.length_eq, List.length_cons]
  exact Nat.lt_succ_self _

theorem weight_awaken
    (settings : Tenant.Settings)
    (run : TimedRun Memory) :
    run.awaken.weight settings = run.weight settings := by
  rw [weight, weight, awaken, (Timeline.perm_jobs_awaken _).length_eq]

/-- Within as many turns as jobs are before it a run comes to rest. -/
theorem Regular.rests_proceed
    (regular : run.Regular settings)
    (calm : service.Calm)
    (enough : run.weight settings ≤ turns) :
    (proceed settings service turns run).timeline.next? = none := by
  induction turns generalizing run with
  | zero =>
      rw [Timeline.next?_eq_none_iff, ← List.length_eq_zero_iff]
      unfold weight at enough
      change run.timeline.jobs.length = 0
      omega
  | succ turns inductionHypothesis =>
      cases next : run.timeline.next? with
      | none =>
          rw [proceed_of_next?_eq_none next]
          exact next
      | some found =>
          obtain ⟨job, timeline⟩ := found
          obtain ⟨_, _, _, _, inOrder, _⟩ := regular.orderly
          obtain ⟨rest, ready, same⟩ := exists_ready_of_next?_eq_some inOrder next
          have fewer := regular.awaken.weight_runJob_lt calm ready
          rw [weight_awaken] at fewer
          rw [proceed_of_next?_eq_some next, same]
          refine inductionHypothesis ?_ (by omega)
          exact regular.awaken.of_advances calm (.work _ [] rest job ready (by simp))

/-- The most steps of a schedule that a run has before it, waits among them. -/
def stepsLeft (settings : Tenant.Settings) (run : TimedRun Memory) : Nat :=
  2 * run.weight settings + if run.timeline.ready.isEmpty then 1 else 0

/-- Unless nothing is left to come, every step of a schedule is one fewer. -/
theorem Regular.stepsLeft_lt
    (regular : run.Regular settings)
    (calm : service.Calm)
    (going : run.timeline.next? ≠ none)
    (advances : Advances settings service run other) :
    other.stepsLeft settings < run.stepsLeft settings := by
  cases advances with
  | work before after job ready first =>
      have fewer := regular.weight_runJob_lt calm ready
      simp only [stepsLeft]
      split <;> split <;> omega
  | wait idle =>
      obtain ⟨_, _, _, _, inOrder, _⟩ := regular.orderly
      obtain ⟨⟨job, timeline⟩, next⟩ := Option.ne_none_iff_exists'.mp going
      obtain ⟨rest, ready, _⟩ := exists_ready_of_next?_eq_some inOrder next
      simp [stepsLeft, weight_awaken, idle, ready]

/-- Every schedule comes to rest. -/
theorem Regular.exists_rest
    {schedule : Nat → TimedRun Memory}
    (regular : (schedule 0).Regular settings)
    (calm : service.Calm)
    (advances : ∀ moment, Advances settings service (schedule moment) (schedule (moment + 1))) :
    ∃ moment, (schedule moment).timeline.next? = none := by
  by_contra restless
  rw [not_exists] at restless
  have soFar : ∀ moment, (schedule moment).Regular settings ∧
      (schedule moment).stepsLeft settings + moment ≤ (schedule 0).stepsLeft settings := by
    intro moment
    induction moment with
    | zero => exact ⟨regular, Nat.le_refl _⟩
    | succ moment inductionHypothesis =>
        obtain ⟨regularNow, counted⟩ := inductionHypothesis
        have fewer := regularNow.stepsLeft_lt calm (restless moment) (advances moment)
        exact ⟨regularNow.of_advances calm (advances moment), by omega⟩
  have counted := (soFar ((schedule 0).stepsLeft settings + 1)).2
  omega

variable {count : Nat} {generator : Nat → Random.Generator} {recorder : Metrics.Recorder}
  {raised : Bool} {memory : Memory}

/-- Every schedule of all tenants comes to their end. -/
theorem exists_isOver
    {schedule : Nat → TimedRun Memory}
    (calm : service.Calm)
    (reaches : Relation.ReflTransGen (Advances settings service)
      (crowd count generator recorder raised memory) (schedule 0))
    (advances : ∀ moment, Advances settings service (schedule moment) (schedule (moment + 1))) :
    ∃ moment, (schedule moment).state.isOver = true := by
  obtain ⟨moment, rests⟩ :=
    (regular_crowd.of_reachable calm reaches).exists_rest calm advances
  refine ⟨moment, isOver_of_rests calm (reaches.trans ?_) rests⟩
  clear rests
  induction moment with
  | zero => exact .refl
  | succ moment inductionHypothesis => exact inductionHypothesis.tail (advances moment)

/-! ## The limit of turns -/

/-- Before a run that has not begun every tenant has its turn and its events. -/
theorem weight_crowd :
    (crowd count generator recorder raised memory).weight settings =
      count * (settings.mostEvents + 1) := by
  have each : ∀ index, (Tenant.initial index (generator index)).weight settings =
      settings.mostEvents := by
    intro index
    rw [Tenant.State.weight_of_waiting (by rw [Tenant.initial_eq]),
      settings.one_add_totalWeight_plan]
  simp [weight, crowd, State.initial, Timeline.jobs_start, Function.comp_def, each, Nat.mul_succ]

/-- As many turns as there can be are within the limit. -/
theorem mul_mostEvents_le_turnLimit
    (settings : Tenant.Settings) :
    settings.workload.tenants.toNat * (settings.mostEvents + 1) ≤ turnLimit settings := by
  refine Nat.mul_le_mul_left _ ?_
  have table : 14 + (settings.rowCount + settings.searchCount) * (2 * settings.policy.budget + 8) ≤
      16 + batchTurns settings settings.workload.rowsPerTable +
        batchTurns settings settings.workload.searchRequests := by
    rw [Nat.add_mul]
    unfold batchTurns Tenant.Settings.rowCount Tenant.Settings.searchCount
    omega
  have tables := Nat.mul_le_mul_left settings.tableCount table
  unfold Tenant.Settings.mostEvents
  change _ ≤ 4 + settings.tableCount * _
  omega

/-- The run on a timeline comes to the end of all tenants. -/
theorem isOver_ofService
    (calm : service.Calm) :
    (ofService settings service memory generator recorder raised).state.isOver = true := by
  refine isOver_of_rests calm (reaches_proceed calm orderly_crowd (turnLimit settings)) ?_
  refine regular_crowd.rests_proceed calm ?_
  rw [weight_crowd]
  exact mul_mostEvents_le_turnLimit settings

end TimedRun
end Run
end TenantLoad
