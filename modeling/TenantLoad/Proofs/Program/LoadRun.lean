import TenantLoad.Proofs.Program.Verdict
import TenantLoad.Proofs.Run.Buckets
import TenantLoad.Proofs.Run.Limit

/-!
# The report of a load run

The report has one outcome for each tenant, whatever the order in which they
end and whichever of them die, its summary accounts for all that was recorded,
and it alone tells how the load run ends.
-/

namespace TenantLoad
namespace Program

open TenantLoad.Run (Begun Event Interleaves Share State)
open TenantLoad.Tenant (Effect)

/-- The service behind a network leaves the shutdown signal alone. -/
theorem calm_service
    (network : Api.Network)
    (config : Config) :
    (service network config).Calm := by
  intro memory tenant call
  unfold service
  split <;> rfl

/-- The report of a load run is that of a run of its tenants to their end. -/
theorem exists_run_runReport
    (network : Api.Network)
    (chance : UInt64)
    (config : Config)
    (settings : Tenant.Settings) :
    ∃ generator events begins final elapsed,
      (State.initial settings.workload.tenants.toNat generator .empty false).run settings events =
          some (final, begins) ∧
        final.isOver = true ∧
        runReport network chance config settings = final.report elapsed := by
  unfold runReport
  have calm := calm_service network config
  obtain ⟨events, begins, runs⟩ := Run.TimedRun.exists_run_ofService calm
  exact ⟨_, events, begins, _, _, runs, Run.TimedRun.isOver_ofService calm, rfl⟩

/-- A load run that can begin ends as its report is concluded. -/
theorem loadRun_eq_conclude
    {config : Config}
    {settings : Tenant.Settings}
    {url : Url}
    (targets : Url.parse config.target.baseUrl = .ok url)
    (sets : Run.setUp config = .ok settings)
    (before : Surroundings) :
    (loadRun config : StateM Surroundings Ending) before =
      (conclude (runReport before.network 0 config settings) config.output :
        StateM Surroundings Ending) before := by
  unfold loadRun
  rw [targets, sets]
  rfl

variable {settings : Tenant.Settings} {count : Nat} {generator : Nat → Random.Generator}
  {recorder : Metrics.Recorder} {raised : Bool} {events : List Event} {final : State}
  {begins : List Begun}

/-- A tenant of a run that is over shows its own outcome, and that of a crash if
it has died. -/
theorem exists_outcome
    {index : Nat}
    {effects : List Effect}
    {tenant : Tenant.State}
    (runs : (State.initial count generator recorder raised).run settings events =
      some (final, begins))
    (ended : final.isOver = true)
    (share : Share settings index (.initial count generator recorder raised) final events begins
      (Tenant.initial index (generator index)) tenant effects)
    (elapsed : Duration) :
    ∃ outcome, tenant.outcome? = some outcome ∧
      (final.report elapsed).tenants[index]? = some outcome ∧
      (tenant.position = .crashed →
        outcome = .crashed index Tenant.Outcome.crashMessage ∧ outcome.isSuccess = false) := by
  have numbers := State.numbers_of_run runs
  have tenantEnded : tenant.isOver = true := by
    obtain ⟨inside, rfl⟩ := Array.getElem?_eq_some_iff.mp share.known
    exact Array.all_eq_true.mp ended index inside
  have outcome := State.outcome?_of_isOver tenantEnded
  refine ⟨_, outcome, ?_, ?_⟩
  · rw [numbers.tenants_report_of_isOver share.known tenantEnded, outcome]
  · intro crashed
    rw [State.arrival?, crashed, Option.getD_none, numbers.index index tenant share.known]
    exact ⟨rfl, rfl⟩

/-- The report of a run that is over has one outcome for each tenant, that of the
tenant itself, or that of a crash, which is no success, if the tenant has died.
Its summary accounts for all entries of the recorder, to which every tenant has
added what it recorded, however it ended.  It is a success unless the signal is
raised or a tenant has an error, and whoever concludes it prints it, writes its
summary and tells by it alone how the load run ends.  So does a load run, whose
report is that of a run of its tenants to their end. -/
theorem report_accounts_and_decides
    (ascending : recorder.Ascending)
    (runs : (State.initial count generator recorder raised).run settings events =
      some (final, begins))
    (ended : final.isOver = true)
    (elapsed : Duration) :
    (final.report elapsed).tenants.length = count ∧
      (∃ shares : List (List Effect), shares.length = count ∧
        (∀ index effects, shares[index]? = some effects → ∃ tenant outcome,
          Share settings index (.initial count generator recorder raised) final events begins
            (Tenant.initial index (generator index)) tenant effects ∧
          tenant.outcome? = some outcome ∧
          (final.report elapsed).tenants[index]? = some outcome ∧
          (tenant.position = .crashed →
            outcome = .crashed index Tenant.Outcome.crashMessage ∧
              outcome.isSuccess = false)) ∧
        ∀ stage : Stage, ∃ new, Interleaves (shares.map (Tenant.bucketOf stage)) new ∧
          final.recorder.entries stage.name = recorder.entries stage.name ++ new) ∧
      (final.report elapsed).summary.Covers final.recorder ∧
      ((final.report elapsed).isSuccess = true ↔
        final.raised = false ∧
          ∀ outcome ∈ (final.report elapsed).tenants, outcome.error = none) ∧
      (∀ output before, Concluded (final.report elapsed) output before
        ((conclude (final.report elapsed) output : StateM Surroundings Ending) before).1
        ((conclude (final.report elapsed) output : StateM Surroundings Ending) before).2) ∧
      ∀ config url own before, Url.parse config.target.baseUrl = .ok url →
        Run.setUp config = .ok own → ∃ generator events begins final elapsed,
          (State.initial own.workload.tenants.toNat generator .empty false).run own events =
            some (final, begins) ∧
          final.isOver = true ∧
          Concluded (final.report elapsed) config.output before
            ((loadRun config : StateM Surroundings Ending) before).1
            ((loadRun config : StateM Surroundings Ending) before).2 := by
  have numbers := State.numbers_of_run runs
  refine ⟨numbers.length_tenants_report elapsed, ?_, Metrics.Recorder.covers_summary _,
    isSuccess_iff _, concluded _, ?_⟩
  · have size : (State.initial count generator recorder raised).tenants.size = count := by
      simp [State.initial]
    obtain ⟨shares, length, own, buckets⟩ := State.exists_buckets_of_run ascending runs
    refine ⟨shares, length.trans size, ?_, buckets⟩
    intro index effects found
    have inside : index < count := by
      rw [← size, ← length]
      exact (List.getElem?_eq_some_iff.mp found).1
    obtain ⟨tenant, share⟩ := own index _ effects
      (State.tenants_initial inside generator recorder raised) found
    obtain ⟨outcome, shown⟩ := exists_outcome runs ended share elapsed
    exact ⟨tenant, outcome, share, shown⟩
  · intro config url own before targets sets
    obtain ⟨_, _, _, _, taken, runsToo, endedToo, reports⟩ :=
      exists_run_runReport before.network 0 config own
    refine ⟨_, _, _, _, taken, runsToo, endedToo, ?_⟩
    rw [loadRun_eq_conclude targets sets, reports]
    exact concluded ..

/-- Three tenants that have only to sign up: the last one fails first, then the
second one dies with its connection, and the first one succeeds. -/
theorem report_accounts_and_decides_when_a_tenant_dies :
    let settings : Tenant.Settings :=
      { workload := { tablesPerTenant := 0 }, policy := ⟨3, .none⟩, classifier := .standard }
    let generator (index : Nat) : Random.Generator := .ofSeed (.ofNat index)
    let events : List Event :=
      [.tenant 2 (.begin (.returned ())), .tenant 0 (.begin (.returned ())),
        .tenant 2 (.answered ⟨1⟩ (.failed (.transport "reset"))),
        .tenant 1 (.begin (.crashed "boom")),
        .tenant 0 (.answered ⟨2⟩ (.returned ⟨201, .nothing⟩))]
    let output : Config.Output := { path := some "out.json" }
    ∃ final begins, (State.initial 3 generator .empty false).run settings events =
        some (final, begins) ∧
      final.isOver = true ∧
      ∀ elapsed, (final.report elapsed).tenants.length = 3 ∧
        (∃ tenant, final.tenants[1]? = some tenant ∧ tenant.position = .crashed ∧
          (final.report elapsed).tenants[1]? =
            some (.crashed 1 Tenant.Outcome.crashMessage)) ∧
        (final.report elapsed).summary.Covers final.recorder ∧
        ∀ before, Concluded (final.report elapsed) output before
          ((conclude (final.report elapsed) output : StateM Surroundings Ending) before).1
          ((conclude (final.report elapsed) output : StateM Surroundings Ending) before).2 := by
  intro settings generator events output
  have runsOn : ((State.initial 3 generator .empty false).run settings events).any
      (fun reached => reached.1.isOver && reached.1.tenants[1]?.any fun tenant =>
        match tenant.position with
        | .crashed => true
        | _ => false) = true := by
    decide +kernel
  obtain ⟨⟨final, begins⟩, runs, held⟩ := (Option.any_eq_true _ _).mp runsOn
  simp only [Bool.and_eq_true, Option.any_eq_true] at held
  obtain ⟨ended, tenant, known, dead⟩ := held
  have crashed : tenant.position = .crashed := by
    cases position : tenant.position <;> simp [position] at dead ⊢
  refine ⟨final, begins, runs, ended, ?_⟩
  intro elapsed
  obtain ⟨length, ⟨shares, sharesLength, own, _⟩, covers, _, concludes, _⟩ :=
    report_accounts_and_decides Metrics.Recorder.ascending_empty runs ended elapsed
  refine ⟨length, ⟨tenant, known, crashed, ?_⟩, covers, concludes output⟩
  obtain ⟨effects, found⟩ : ∃ effects, shares[1]? = some effects :=
    ⟨_, List.getElem?_eq_getElem (by omega)⟩
  obtain ⟨other, outcome, share, _, shown, dies⟩ := own 1 effects found
  rw [share.known, Option.some.injEq] at known
  subst known
  rw [shown, (dies crashed).1]

end Program
end TenantLoad
