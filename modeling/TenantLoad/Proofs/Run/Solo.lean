import TenantLoad.Proofs.Run.Limit
import TenantLoad.Proofs.Run.Mirror
import TenantLoad.Proofs.Service.Script

/-!
# Tenants keep apart

When the service answers every tenant for itself and nobody raises the
shutdown signal, a tenant does the same whatever the others do: under every
schedule it comes to where it comes alone, with the same entries recorded.
So a failing tenant changes nothing for its siblings, and what is counted of a
stage is the sum of what is counted of the tenants on their own.
-/

namespace TenantLoad
namespace Run

open TenantLoad.Tenant (Effect)

variable {Memory View : Type}

namespace State

variable {settings : Tenant.Settings} {state : State} {index : Nat} {tenant : Tenant.State}

/-- Nothing happens to a tenant that there is not. -/
theorem step_eq_none_of_unknown
    (unknown : state.tenants[index]? = none)
    (event : Tenant.Event) :
    state.step settings (.tenant index event) = none := by
  simp [step, unknown]

/-- Nothing happens to a tenant whose work is over. -/
theorem step_eq_none_of_isOver
    (known : state.tenants[index]? = some tenant)
    (ended : tenant.isOver = true)
    (event : Tenant.Event) :
    state.step settings (.tenant index event) = none := by
  cases steps : state.step settings (.tenant index event) with
  | none => rfl
  | some found =>
      obtain ⟨_, _, _, same, moves, _⟩ := exists_of_step_tenant steps
      rw [known, Option.some.injEq] at same
      subst same
      have going := (Tenant.Moves.of_step moves).isOver_eq_false
      rw [ended] at going
      cases going

end State

namespace TimedRun

variable {settings : Tenant.Settings} {service : Service Memory} {view : Nat → Memory → View}
  {run other alone : TimedRun Memory} {index count turns : Nat} {job : Job}
  {generator : Nat → Random.Generator} {memory : Memory}

/-- A tenant of a run that has not begun, with its turn to come and that of no
other. -/
def solo (count : Nat) (generator : Nat → Random.Generator) (memory : Memory) (index : Nat) :
    TimedRun Memory :=
  { timeline := .start [.turn index]
    state := .initial count generator .empty false
    parked := []
    memory }

/-! ## Jobs that come to nothing -/

/-- A job changes nothing when nothing can happen to its tenant. -/
theorem runJob_of_still
    (still : ∀ event, run.state.step settings (.tenant job.tenant event) = none) :
    (run.runJob settings service job).state = run.state ∧
      (run.runJob settings service job).timeline = run.timeline := by
  have performs : ∀ event, run.perform settings service job.tenant event = run := by
    intro event
    unfold perform
    rw [still event]
  cases job with
  | event tenant event =>
      change (run.perform settings service tenant event).state = _ ∧ _
      exact ⟨congrArg _ (performs event), congrArg _ (performs event)⟩
  | turn tenant =>
      change (run.turn settings service tenant).state = _ ∧
        (run.turn settings service tenant).timeline = _
      unfold turn
      cases run.state.tenants[tenant]? with
      | none => exact ⟨rfl, rfl⟩
      | some state =>
          dsimp only
          cases nextEvent? settings service run.state.raised state with
          | none => exact ⟨rfl, rfl⟩
          | some event => exact ⟨congrArg _ (performs event), congrArg _ (performs event)⟩

/-- How a run goes on depends on its next job, not on the clock. -/
theorem state_proceed_of_next?_eq
    {timeline : Timeline Job}
    (same : timeline.next? = run.timeline.next?)
    (turns : Nat) :
    (proceed settings service turns { run with timeline }).state =
      (proceed settings service turns run).state := by
  cases turns with
  | zero => rfl
  | succ turns =>
      cases next : run.timeline.next? with
      | none =>
          rw [next] at same
          rw [proceed_of_next?_eq_none next, proceed_of_next?_eq_none same]
      | some found =>
          obtain ⟨job, rest⟩ := found
          rw [next] at same
          rw [proceed_of_next?_eq_some next, proceed_of_next?_eq_some same]

/-- With no jobs but those of a tenant whose work is over nothing happens any
more. -/
theorem state_proceed_of_isOver
    {tenant : Tenant.State}
    (own : run.timeline.AllOf (Job.isOf index))
    (known : run.state.tenants[index]? = some tenant)
    (ended : tenant.isOver = true)
    (turns : Nat) :
    (proceed settings service turns run).state = run.state := by
  induction turns generalizing run with
  | zero => rfl
  | succ turns inductionHypothesis =>
      cases next : run.timeline.next? with
      | none => rw [proceed_of_next?_eq_none next]
      | some found =>
          obtain ⟨job, timeline⟩ := found
          obtain ⟨ownJob, ownRest⟩ := own.of_next?_eq_some next
          have here : job.tenant = index := of_decide_eq_true ownJob
          subst here
          have still : ∀ event,
              ({ run with timeline } : TimedRun Memory).state.step settings
                (.tenant job.tenant event) = none :=
            State.step_eq_none_of_isOver known ended
          obtain ⟨state, jobs⟩ :
            (runJob settings service { run with timeline } job).state = run.state ∧
              (runJob settings service { run with timeline } job).timeline = timeline :=
            runJob_of_still still
          rw [proceed_of_next?_eq_some next, inductionHypothesis, state]
          · rw [jobs]
            exact ownRest
          · rw [state]
            exact known

/-! ## A run beside the runs of its tenants alone -/

/-- What a run is to its tenants: each of them is where it comes alone, and what
has been recorded is what all of them have recorded, in some order. -/
structure Apart (settings : Tenant.Settings) (service : Service Memory)
    (view : Nat → Memory → View) (start : Nat → TimedRun Memory) (count : Nat)
    (run : TimedRun Memory) (tagged : List (Nat × Effect)) : Prop where
  recorded : run.state.recorder = State.recordAll .empty (tagged.map Prod.snd)
  within : ∀ entry ∈ tagged, entry.1 < count
  mirrored : ∀ index, index < count → ∃ turns alone,
    (∀ more, (proceed settings service (turns + more) (start index)).state =
      (proceed settings service more alone).state) ∧
    Mirrors view index run alone ∧
    alone.state.recorder = State.recordAll .empty (partAt index tagged)

namespace Apart

variable {start : Nat → TimedRun Memory} {tagged : List (Nat × Effect)}

/-- Waiting is waiting for all tenants. -/
theorem awaken
    (apart : Apart settings service view start count run tagged) :
    Apart settings service view start count run.awaken tagged where
  recorded := apart.recorded
  within := apart.within
  mirrored := by
    intro index inside
    obtain ⟨turns, alone, same, mirrors, recorded⟩ := apart.mirrored index inside
    obtain ⟨timeline, next, mirrorsToo⟩ := mirrors.awaken
    refine ⟨turns, { alone with timeline }, ?_, mirrorsToo, recorded⟩
    intro more
    rw [same more, state_proceed_of_next?_eq next]

/-- A job is one turn of its tenant alone and nothing to the others. -/
theorem work
    {before after : List Job}
    (apart : Apart settings service view start count run tagged)
    (calm : service.Calm)
    (separate : service.Separate view)
    (ready : run.timeline.ready = before ++ job :: after)
    (first : ∀ other ∈ before, other.tenant ≠ job.tenant)
    (inside : job.tenant < count) :
    ∃ more, Apart settings service view start count
      (runJob settings service (run.withReady (before ++ after)) job) (tagged ++ more) := by
  obtain ⟨turns, alone, same, mirrors, recorded⟩ := apart.mirrored job.tenant inside
  obtain ⟨timeline, next, popped⟩ := mirrors.exists_next_own ready first
  obtain ⟨mirrorsToo, effects, recordedNow, recordedAlone⟩ :=
    popped.runJob_own calm separate
  refine ⟨effects.map fun effect => (job.tenant, effect), ?_, ?_, ?_⟩
  · rw [recordedNow, List.map_append, State.recordAll_append, List.map_map, ← apart.recorded]
    exact congrArg _ (List.map_id effects).symm
  · intro entry member
    rcases List.mem_append.mp member with earlier | now
    · exact apart.within entry earlier
    · obtain ⟨_, _, rfl⟩ := List.mem_map.mp now
      exact inside
  · intro index insideToo
    by_cases here : job.tenant = index
    · subst here
      refine ⟨turns + 1, runJob settings service { alone with timeline } job, ?_, mirrorsToo, ?_⟩
      · intro more
        rw [Nat.add_assoc, same, Nat.add_comm 1, proceed_of_next?_eq_some next]
      · rw [recordedAlone, partAt_append, partAt_map_self, State.recordAll_append, ← recorded]
    · obtain ⟨turnsToo, aloneToo, sameToo, mirrorsOther, recordedToo⟩ :=
        apart.mirrored index insideToo
      refine ⟨turnsToo, aloneToo, sameToo,
        (mirrorsOther.withReady_other ready here).runJob_other calm separate here, ?_⟩
      rw [partAt_append, partAt_map_of_ne here, List.append_nil]
      exact recordedToo

/-- A job of a tenant that there is not comes to nothing. -/
theorem work_of_unknown
    {before after : List Job}
    (apart : Apart settings service view start count run tagged)
    (calm : service.Calm)
    (separate : service.Separate view)
    (ready : run.timeline.ready = before ++ job :: after)
    (unknown : run.state.tenants[job.tenant]? = none)
    (outside : ¬job.tenant < count) :
    Apart settings service view start count
      (runJob settings service (run.withReady (before ++ after)) job) tagged where
  recorded := by
    have still : ∀ event, (run.withReady (before ++ after)).state.step settings
        (.tenant job.tenant event) = none :=
      State.step_eq_none_of_unknown unknown
    rw [(runJob_of_still still).1]
    exact apart.recorded
  within := apart.within
  mirrored := by
    intro index inside
    obtain ⟨turns, alone, same, mirrors, recorded⟩ := apart.mirrored index inside
    have different : job.tenant ≠ index := by
      rintro rfl
      exact outside inside
    exact ⟨turns, alone, same,
      (mirrors.withReady_other ready different).runJob_other calm separate different, recorded⟩

/-- Whatever a schedule does next keeps the tenants apart. -/
theorem of_advances
    (apart : Apart settings service view start count run tagged)
    (calm : service.Calm)
    (separate : service.Separate view)
    (size : run.state.tenants.size = count)
    (advances : Advances settings service run other) :
    ∃ more, Apart settings service view start count other (tagged ++ more) := by
  cases advances with
  | wait idle => exact ⟨[], by simpa using apart.awaken⟩
  | work before after job ready first =>
      by_cases inside : job.tenant < count
      · exact apart.work calm separate ready first inside
      · have unknown : run.state.tenants[job.tenant]? = none := by
          rw [Array.getElem?_eq_none_iff, size]
          exact Nat.not_lt.mp inside
        exact ⟨[], by simpa using apart.work_of_unknown calm separate ready unknown inside⟩

/-- At first every tenant is where it is alone. -/
theorem of_crowd :
    Apart settings service view (solo count generator memory) count
      (crowd count generator .empty false memory) [] where
  recorded := rfl
  within := by simp
  mirrored := by
    intro index inside
    refine ⟨0, solo count generator memory index, ?_,
      ⟨Timeline.inOrder_start _, ?_, rfl, rfl, rfl, rfl⟩, rfl⟩
    · intro more
      rw [Nat.zero_add]
    · have own : ((List.range count).map Job.turn).filter (Job.isOf index) = [.turn index] := by
        have itself : (List.range count).filter (fun place => place == index) = [index] := by
          rw [List.filter_beq,
            List.count_eq_one_of_mem List.nodup_range (List.mem_range.mpr inside)]
          rfl
        rw [List.filter_map]
        exact congrArg _ itself
      simp only [crowd, solo, Timeline.only, Timeline.start, own, List.filter_nil]

/-- Under every schedule the tenants keep apart. -/
theorem of_reachable
    (calm : service.Calm)
    (separate : service.Separate view)
    (reaches : Relation.ReflTransGen (Advances settings service)
      (crowd count generator .empty false memory) run) :
    ∃ tagged, Apart settings service view (solo count generator memory) count run tagged := by
  induction reaches with
  | refl => exact ⟨[], of_crowd⟩
  | tail past advances inductionHypothesis =>
      obtain ⟨tagged, apart⟩ := inductionHypothesis
      obtain ⟨_, events, begins, runs⟩ := orderly_crowd.of_reachable calm past
      obtain ⟨more, further⟩ :=
        apart.of_advances calm separate (State.numbers_of_run runs).size advances
      exact ⟨tagged ++ more, further⟩

/-- Where all tenants have been recorded apart, the bucket of a stage interleaves
theirs. -/
theorem interleaves_entries
    {solos : Nat → State}
    (apart : Apart settings service view start count run tagged)
    (recorded : ∀ index, index < count →
      (solos index).recorder = State.recordAll .empty (partAt index tagged))
    (stage : Stage) :
    Interleaves
      ((List.range count).map fun index => (solos index).recorder.entries stage.name)
      (run.state.recorder.entries stage.name) := by
  have buckets : ∀ effects, (State.recordAll .empty effects).entries stage.name =
      Tenant.bucketOf stage effects := by
    intro effects
    rw [Tenant.entries_recordAll Metrics.Recorder.ascending_empty, Tenant.map_records_stageOf]
    rfl
  have whole := (interleaves_partAt apart.within).filterMap (Tenant.Effect.entry? stage)
  have parts : (List.range count).map (fun index => (solos index).recorder.entries stage.name) =
      ((List.range count).map fun index => partAt index tagged).map
        (List.filterMap (Tenant.Effect.entry? stage)) := by
    rw [List.map_map]
    apply List.map_congr_left
    intro index member
    rw [recorded index (List.mem_range.mp member), buckets]
    rfl
  rw [parts, apart.recorded, buckets]
  exact whole

end Apart

/-- What every tenant comes to after some turns all of them have come to after
enough turns. -/
theorem exists_turns
    {reached : Nat → Nat → Prop}
    (each : ∀ index, index < count → ∃ turns, ∀ longer, turns ≤ longer → reached index longer) :
    ∃ turns, ∀ longer, turns ≤ longer → ∀ index, index < count → reached index longer := by
  induction count with
  | zero => exact ⟨0, fun _ _ index inside => absurd inside (Nat.not_lt_zero index)⟩
  | succ count inductionHypothesis =>
      obtain ⟨turns, others⟩ := inductionHypothesis
        fun index inside => each index (Nat.lt_succ_of_lt inside)
      obtain ⟨turnsLast, last⟩ := each count (Nat.lt_succ_self count)
      refine ⟨max turns turnsLast, ?_⟩
      intro longer enough index inside
      rcases Nat.lt_succ_iff_lt_or_eq.mp inside with before | rfl
      · exact others longer (Nat.le_trans (Nat.le_max_left ..) enough) index before
      · exact last longer (Nat.le_trans (Nat.le_max_right ..) enough)

end TimedRun

/-- A run that combines what its tenants come to alone. -/
structure Combines (count : Nat) (solo : Nat → State) (final : State) : Prop where
  /-- Every tenant has the outcome that it has alone. -/
  outcome : ∀ index, index < count → ∃ tenant outcome,
    (solo index).tenants[index]? = some tenant ∧ tenant.outcome? = some outcome ∧
      ∀ elapsed, (final.report elapsed).tenants[index]? = some outcome
  /-- The bucket of a stage interleaves those of the tenants alone. -/
  bucket : ∀ stage : Stage,
    Interleaves ((List.range count).map fun index => (solo index).recorder.entries stage.name)
      (final.recorder.entries stage.name)
  /-- What is counted of a stage is the sum of what is counted of the tenants alone. -/
  counts : ∀ (stage : Stage) counted, Metrics.StageSummary.IsCount counted →
    ∀ elapsed, (final.report elapsed).summary.countAt counted stage.name =
      ((List.range count).map fun index =>
        ((solo index).report elapsed).summary.countAt counted stage.name).sum

/-- Where buckets interleave, every count of a stage is a sum. -/
theorem countAt_of_interleaves
    {count : Nat}
    {solo : Nat → State}
    {final : State}
    {stage : Stage}
    {counted : Metrics.StageSummary → Nat}
    (interleaves : Interleaves
      ((List.range count).map fun index => (solo index).recorder.entries stage.name)
      (final.recorder.entries stage.name))
    (isCount : Metrics.StageSummary.IsCount counted)
    (elapsed : Duration) :
    (final.report elapsed).summary.countAt counted stage.name =
      ((List.range count).map fun index =>
        ((solo index).report elapsed).summary.countAt counted stage.name).sum := by
  obtain ⟨holds, counts⟩ := isCount.exists_countP
  have counted_eq : ∀ state : State,
      (state.report elapsed).summary.countAt counted stage.name =
        (state.recorder.entries stage.name).countP holds := by
    intro state
    rw [State.report, Metrics.Recorder.countAt_summary isCount, counts]
  rw [counted_eq, interleaves.countP_eq, List.map_map]
  congr 1
  apply List.map_congr_left
  intro index _
  exact (counted_eq (solo index)).symm

namespace TimedRun.Apart

variable {settings : Tenant.Settings} {service : Service Memory} {view : Nat → Memory → View}
  {count : Nat} {generator : Nat → Random.Generator} {memory : Memory} {run : TimedRun Memory}
  {tagged : List (Nat × Effect)}

/-- When the work of all tenants is over, each has come to the same alone after
enough turns. -/
theorem exists_solo_of_isOver
    (apart : Apart settings service view (solo count generator memory) count run tagged)
    (size : run.state.tenants.size = count)
    (ended : run.state.isOver = true) :
    ∃ turns, ∀ longer, turns ≤ longer → ∀ index, index < count →
      ∃ tenant alone, alone =
          (proceed settings service longer (solo count generator memory index)).state ∧
        run.state.tenants[index]? = some tenant ∧ tenant.isOver = true ∧
        alone.tenants[index]? = some tenant ∧
        alone.recorder = State.recordAll .empty (partAt index tagged) := by
  apply exists_turns
  intro index inside
  obtain ⟨turns, alone, same, mirrors, recorded⟩ := apart.mirrored index inside
  rw [← size] at inside
  have known := Array.getElem?_eq_getElem inside
  have tenantEnded := (Array.all_eq_true.mp ended) index inside
  have knownAlone := mirrors.tenant.trans known
  have own : alone.timeline.AllOf (Job.isOf index) := by
    rw [mirrors.timeline]
    exact Timeline.allOf_only ..
  refine ⟨turns, ?_⟩
  intro longer enough
  obtain ⟨more, rfl⟩ := Nat.exists_eq_add_of_le enough
  refine ⟨_, alone.state, ?_, known, tenantEnded, knownAlone, recorded⟩
  rw [same more, state_proceed_of_isOver own knownAlone tenantEnded]

end TimedRun.Apart

/-- Tenants do not influence each other.  Under every schedule of a run in which
the service answers each tenant for itself and nobody raises the signal: however
it goes on, all tenants come to their end; and when all are done, the run
combines what they come to alone. -/
theorem tenants_keep_apart
    {settings : Tenant.Settings}
    {service : Service Memory}
    {view : Nat → Memory → View}
    {count : Nat}
    {generator : Nat → Random.Generator}
    {memory : Memory}
    {run : TimedRun Memory}
    (calm : service.Calm)
    (separate : service.Separate view)
    (reaches : Relation.ReflTransGen (TimedRun.Advances settings service)
      (.crowd count generator .empty false memory) run) :
    let solo (turns index : Nat) : State :=
      (TimedRun.proceed settings service turns (.solo count generator memory index)).state
    (∀ schedule : Nat → TimedRun Memory, schedule 0 = run →
      (∀ moment, TimedRun.Advances settings service (schedule moment) (schedule (moment + 1))) →
        ∃ moment, (schedule moment).state.isOver = true) ∧
      (run.state.isOver = true →
        ∃ turns, ∀ longer, turns ≤ longer → Combines count (solo longer) run.state) := by
  intro solo
  obtain ⟨tagged, apart⟩ := TimedRun.Apart.of_reachable calm separate reaches
  obtain ⟨_, events, begins, runs⟩ := TimedRun.orderly_crowd.of_reachable calm reaches
  have numbers := State.numbers_of_run runs
  constructor
  · rintro schedule rfl advances
    exact TimedRun.exists_isOver calm reaches advances
  · intro ended
    obtain ⟨turns, reached⟩ := apart.exists_solo_of_isOver numbers.size ended
    refine ⟨turns, ?_⟩
    intro longer enough
    have interleaves : ∀ stage : Stage,
        Interleaves
          ((List.range count).map fun index => (solo longer index).recorder.entries stage.name)
          (run.state.recorder.entries stage.name) := by
      apply apart.interleaves_entries
      intro index inside
      obtain ⟨_, _, rfl, _, _, _, recorded⟩ := reached longer enough index inside
      exact recorded
    refine ⟨?_, interleaves,
      fun stage _ isCount => countAt_of_interleaves (interleaves stage) isCount⟩
    intro index inside
    obtain ⟨tenant, _, rfl, known, tenantEnded, knownAlone, _⟩ :=
      reached longer enough index inside
    have outcome := State.outcome?_of_isOver tenantEnded
    refine ⟨tenant, _, knownAlone, outcome, ?_⟩
    intro elapsed
    rw [numbers.tenants_report_of_isOver known tenantEnded, outcome]

/-- Three tenants that have only to sign up: the first one is refused a
connection, the second one fails and the third one succeeds. -/
theorem tenants_keep_apart_when_two_fail :
    let settings : Tenant.Settings :=
      { workload := { tablesPerTenant := 0 }, policy := ⟨3, .none⟩, classifier := .standard }
    let script : Service.Script :=
      { connect := [{ tenant := some 0, decision := .failure (.transport "refused") }]
        rules := fun _ => [{ tenant := some 1, decision := .failure (.transport "reset") }]
        latency := fun _ => [5]
        shutdown := [] }
    let generator (index : Nat) : Random.Generator := .ofSeed (.ofNat index)
    ∃ run, Relation.ReflTransGen (TimedRun.Advances settings script.service)
        (.crowd 3 generator .empty false {}) run ∧
      run.state.isOver = true ∧
      ∃ turns, ∀ longer, turns ≤ longer →
        Combines 3
          (fun index =>
            (TimedRun.proceed settings script.service longer (.solo 3 generator {} index)).state)
          run.state := by
  intro settings script generator
  have calm : script.service.Calm := Service.Script.calm_service rfl
  have ends : (TimedRun.proceed settings script.service 5
      (.crowd 3 generator .empty false {})).state.isOver = true := by
    decide +kernel
  have reaches : Relation.ReflTransGen (TimedRun.Advances settings script.service)
      (.crowd 3 generator .empty false {})
      (TimedRun.proceed settings script.service 5 (.crowd 3 generator .empty false {})) :=
    TimedRun.reaches_proceed calm TimedRun.orderly_crowd 5
  exact ⟨_, reaches, ends,
    (tenants_keep_apart calm script.separate_service reaches).2 ends⟩

end Run
end TenantLoad
