import TenantLoad.Decimal.Layout
import TenantLoad.Duration
import TenantLoad.Metrics.Summary
import TenantLoad.Tenant.Outcome

/-!
# Reports of load runs

A report holds the summary of all recorded calls and the outcome of every
tenant.  A run succeeded if it was not interrupted and every tenant did all of
its work.
-/

namespace TenantLoad
namespace Run

/-- The report of a run. -/
structure Report where
  summary : Metrics.Summary
  /-- The outcomes in the order of the tenants. -/
  tenants : List Tenant.Outcome
  elapsed : Duration
  interrupted : Bool

namespace Report

/-- The outcomes in the order of their arrival, and after them those of the
tenants without one: they have died. -/
def pad (count : Nat) (arrived : List Tenant.Outcome) : List Tenant.Outcome :=
  (List.range count).foldl
    (fun outcomes tenant =>
      if outcomes.any fun outcome => outcome.tenant == tenant then outcomes
      else outcomes ++ [.crashed tenant Tenant.Outcome.crashMessage])
    arrived

/-- One outcome for each tenant, in the order of the tenants. -/
def arrange (count : Nat) (arrived : List Tenant.Outcome) : List Tenant.Outcome :=
  (pad count arrived).mergeSort fun first second => decide (first.tenant ≤ second.tenant)

/-- The tenants that did not do all of their work. -/
def failedTenants (report : Report) : List Tenant.Outcome :=
  report.tenants.filter fun tenant => !tenant.isSuccess

/-- Whether a run succeeded. -/
def isSuccess (report : Report) : Bool :=
  !report.interrupted && report.tenants.all Tenant.Outcome.isSuccess

/-- The calls per second of a stage over the whole run. -/
def throughput (report : Report) (stage : Metrics.StageSummary) : Float :=
  stage.throughput report.elapsed.secondsFloat

/-- A float with two decimal places. -/
def twoPlaces (value : Float) : String := Decimal.fixedText 2 value.toBits

/-- The lines about a stage. -/
def stageText (name : String) (stage : Metrics.StageSummary) (throughput : Float) : String :=
  let statuses := ", ".intercalate
    (stage.statusCounts.map fun (status, count) => s!"{status}: {count}")
  let measure (label : String) (value : Float) := s!"  {label}: {twoPlaces value}\n"
  s!"\nStage: {name}\n  requests: {stage.requests}\n  success: {stage.success}\n" ++
    s!"  failure: {stage.failure}\n" ++
    "  status_counts: \x7b" ++ statuses ++ "\x7d\n" ++
    measure "avg_ms" stage.average ++ measure "min_ms" stage.least ++
    measure "max_ms" stage.most ++ measure "p50_ms" stage.median ++
    measure "p95_ms" stage.percentile95 ++ measure "throughput_rps" throughput

/-- The line about a tenant. -/
def tenantText (tenant : Tenant.Outcome) : String :=
  match tenant.error with
  | none => s!"  tenant {tenant.tenant} ({tenant.orgSlug}): ok, {tenant.tables.length} table(s)\n"
  | some error =>
    let stage := (tenant.failedStage.map Stage.name).getD "run"
    s!"  tenant {tenant.tenant} ({tenant.orgSlug}): FAILED at {stage}: {error}\n"

/-- The text of a report. -/
def text (report : Report) : String :=
  "=== Stress Test Summary ===\n" ++
    String.join (report.summary.map fun (name, stage) =>
      stageText name stage (report.throughput stage)) ++
    "\nTenants:\n" ++ String.join (report.tenants.map tenantText) ++
    s!"\nElapsed: {twoPlaces report.elapsed.secondsFloat}s" ++
    (if report.interrupted then " (interrupted)" else "")

end Report
end Run
end TenantLoad
