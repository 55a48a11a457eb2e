import TenantLoad.Run.Machine
import TenantLoad.Timeline

/-!
# Load runs on a timeline

One schedule of a run.  A service tells at the beginning of every call how
long the call takes and how it ends.  Tenants and the items of their batches
take turns in the order in which they become ready; a tenant dispatches
items for as long as it can and otherwise waits for one to end.
-/

namespace TenantLoad
namespace Run

/-- What a service makes of a call. -/
structure Response where
  /-- Whether the shutdown signal is raised as the call begins. -/
  raises : Bool := false
  milliseconds : Nat := 0
  attempt : Api.Attempt

/-- A service with a memory of what it has been asked. -/
structure Service (Memory : Type) where
  /-- Whether a tenant's connection opens. -/
  connect : Nat → Retry.Attempt Unit Api.Error
  /-- The response to a tenant's call. -/
  respond : Memory → Nat → Api.Call → Response × Memory

/-- What can run: a tenant, or what was due to happen to it. -/
inductive Job where
  | turn (tenant : Nat)
  | event (tenant : Nat) (event : Tenant.Event)

/-- A run under way. -/
structure TimedRun (Memory : Type) where
  timeline : Timeline Job
  state : State
  /-- The tenants that wait for an item to end or for the shutdown signal. -/
  parked : List Nat
  memory : Memory

namespace TimedRun

variable {Memory : Type}

/-- So many whole milliseconds as a measured length. -/
def measured (milliseconds : Nat) : Metrics.Millis := ⟨(UInt64.ofNat milliseconds).toFloat.toBits⟩

/-- Let a tenant take its turn again if it waits. -/
def unpark (run : TimedRun Memory) (tenant : Nat) : TimedRun Memory :=
  if run.parked.contains tenant then
    { run with
      parked := run.parked.filter fun other => other != tenant
      timeline := run.timeline.wake (.turn tenant) }
  else
    run

/-- Raise the shutdown signal, which ends all waiting. -/
def raise (settings : Tenant.Settings) (run : TimedRun Memory) : TimedRun Memory :=
  match run.state.step settings .raise with
  | none => run
  | some (state, _) => run.parked.foldl unpark { run with state }

/-- Begin a call: it ends after the time that the service says. -/
def beginCall (settings : Tenant.Settings) (service : Service Memory)
    (run : TimedRun Memory) (begun : Begun) : TimedRun Memory :=
  let (response, memory) := service.respond run.memory begun.tenant begun.call
  let run := { run with memory }
  let run := if response.raises then run.raise settings else run
  let duration := measured response.milliseconds
  let ending : Tenant.Event :=
    match begun.item with
    | some item => .batch duration (.finish item response.attempt)
    | none => .answered duration response.attempt
  { run with
    timeline := run.timeline.sleep (.event begun.tenant ending) response.milliseconds }

/-- The batch that a tenant has under way, with its settings. -/
def batch? (settings : Tenant.Settings) (tenant : Tenant.State) :
    Option (Batch.Settings × Tenant.Calls) :=
  match tenant.position with
  | .insertingRows _ _ batch => some (settings.rowBatch, batch)
  | .searching _ _ batch => some (settings.searchBatch, batch)
  | _ => none

/-- An event of a batch that takes no time of its own. -/
def instant (event : Batch.Event Api.Reply Api.Error) : Tenant.Event := .batch (measured 0) event

/-- What follows an event of a tenant: a dispatched item becomes ready, an
item whose attempt failed rests, an item that ended lets its tenant go on. -/
def followUp (settings : Tenant.Settings) (run : TimedRun Memory) (index : Nat)
    (event : Tenant.Event) : TimedRun Memory :=
  match run.state.tenants[index]? with
  | none => run
  | some tenant =>
    match batch? settings tenant with
    | none => run
    | some (_, batch) =>
      match event with
      | .batch _ .dispatch =>
        let timeline :=
          if batch.stop.isSome then run.timeline
          else run.timeline.wake (.event index (instant (.start (batch.dispatched - 1))))
        { run with timeline := timeline.goOn (.turn index) }
      | .batch _ (.finish item _) =>
        match batch.cells[item]? with
        | some (.resting _ delay _) =>
          { run with
            timeline :=
              run.timeline.sleep (.event index (instant (.resume item))) delay.timerMilliseconds }
        | _ => run.unpark index
      | .batch _ _ | .act _ _ => run
      | _ => { run with timeline := run.timeline.goOn (.turn index) }

/-- Let an event of a tenant happen. -/
def perform (settings : Tenant.Settings) (service : Service Memory) (run : TimedRun Memory)
    (index : Nat) (event : Tenant.Event) : TimedRun Memory :=
  match run.state.step settings (.tenant index event) with
  | none => run
  | some (state, calls) =>
    followUp settings (calls.foldl (beginCall settings service) { run with state }) index event

/-- A tenant's own next event, if it need not wait. -/
def nextEvent? (settings : Tenant.Settings) (service : Service Memory) (raised : Bool)
    (tenant : Tenant.State) : Option Tenant.Event :=
  match tenant.position with
  | .waiting => some (.begin (service.connect tenant.index))
  | _ =>
    match batch? settings tenant with
    | none => none
    | some (batchSettings, batch) =>
      if batch.canDispatch batchSettings raised then some (instant .dispatch)
      else if batch.isOver then some .gather
      else none

/-- A tenant's turn. -/
def turn (settings : Tenant.Settings) (service : Service Memory) (run : TimedRun Memory)
    (index : Nat) : TimedRun Memory :=
  match run.state.tenants[index]? with
  | none => run
  | some tenant =>
    match nextEvent? settings service run.state.raised tenant with
    | some event => run.perform settings service index event
    | none => { run with parked := run.parked ++ [index] }

/-- Let ready jobs run until none is left, or for so many turns. -/
def proceed (settings : Tenant.Settings) (service : Service Memory) :
    Nat → TimedRun Memory → TimedRun Memory
  | 0, run => run
  | turns + 1, run =>
    match run.timeline.next? with
    | none => run
    | some (job, timeline) =>
      let run := { run with timeline }
      match job with
      | .turn tenant => proceed settings service turns (run.turn settings service tenant)
      | .event tenant event =>
        proceed settings service turns (run.perform settings service tenant event)

/-- The turns that a batch of so many items can take: no more than its acts, which
are two for every attempt and eight others for every item. -/
def batchTurns (settings : Tenant.Settings) (items : UInt64) : Nat :=
  items.toNat * (2 * settings.policy.budget + 8)

/-- The turns that a run can take. -/
def turnLimit (settings : Tenant.Settings) : Nat :=
  let workload := settings.workload
  let table :=
    16 + batchTurns settings workload.rowsPerTable + batchTurns settings workload.searchRequests
  workload.tenants.toNat * (4 + workload.tablesPerTenant.toNat * table)

/-- Run all tenants to their end. -/
def ofService (settings : Tenant.Settings) (service : Service Memory) (memory : Memory)
    (generator : Nat → Random.Generator) (recorder : Metrics.Recorder) (raised : Bool) :
    TimedRun Memory :=
  let tenants := settings.workload.tenants.toNat
  proceed settings service (turnLimit settings)
    { timeline := .start ((List.range tenants).map Job.turn)
      state := .initial tenants generator recorder raised
      parked := []
      memory }

/-- The report of a run that has ended. -/
def report (run : TimedRun Memory) : Report :=
  run.state.report (.ofMilliseconds run.timeline.now)

end TimedRun
end Run
end TenantLoad
