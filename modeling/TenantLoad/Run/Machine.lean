import TenantLoad.Metrics.Recorder
import TenantLoad.Run.Report
import TenantLoad.Tenant.Machine

/-!
# A load run as a transition system

A run is a number of tenants that work side by side, one recorder and one
shutdown signal.  An event of a tenant changes that tenant, the recorder and
nothing else.
-/

namespace TenantLoad
namespace Run

/-- How the tenants of a run work, if its settings allow one. -/
def setUp (config : Config) : Except Tenant.Failure Tenant.Settings :=
  match config.retry.classifier? with
  | none => .error (.setup s!"retryable_body_pattern: {Pattern.fault}")
  | some classifier =>
    .ok { workload := config.workload, policy := config.retry.policy, classifier }

/-- What the seed of a run is mixed with for every tenant. -/
def seedStep : UInt64 := 0x9E3779B97F4A7C15

/-- The seed of a tenant's generator. -/
def tenantSeed (seed tenant : UInt64) : UInt64 := seed ^^^ (tenant * seedStep)

/-- The generator of a tenant: of the seed of the run, or any generator when
the run has none. -/
def generator (entropy : Nat → Random.Generator) (seed : Option UInt64) (tenant : Nat) :
    Random.Generator :=
  match seed with
  | some seed => .ofSeed (tenantSeed seed (UInt64.ofNat tenant))
  | none => entropy tenant

/-- The state of a run. -/
structure State where
  tenants : Array Tenant.State
  /-- The outcomes of tenants whose work has ended, in order of ending. -/
  arrived : List Tenant.Outcome
  recorder : Metrics.Recorder
  /-- Whether the shutdown signal is raised. -/
  raised : Bool

/-- What can happen in a run. -/
inductive Event where
  | tenant (index : Nat) (event : Tenant.Event)
  /-- The shutdown signal is raised. -/
  | raise

/-- A call that begins: its tenant, its item in a batch, and the call. -/
structure Begun where
  tenant : Nat
  item : Option Nat
  call : Api.Call

namespace State

/-- The state before any tenant has begun. -/
def initial (tenants : Nat) (generator : Nat → Random.Generator) (recorder : Metrics.Recorder)
    (raised : Bool) : State :=
  { tenants := ((List.range tenants).map fun index => Tenant.initial index (generator index)).toArray
    arrived := []
    recorder
    raised }

/-- The recorder after the effects of an event. -/
def recordAll (recorder : Metrics.Recorder) (effects : List Tenant.Effect) : Metrics.Recorder :=
  effects.foldl
    (fun recorder effect =>
      match effect with
      | .record origin entry => recorder.record origin.task.stage.name entry
      | .connect _ | .call .. | .ended .. => recorder)
    recorder

/-- The calls that begin among the effects of an event. -/
def begun (tenant : Nat) (effects : List Tenant.Effect) : List Begun :=
  effects.filterMap fun effect =>
    match effect with
    | .call origin call => some ⟨tenant, origin.item, call⟩
    | .connect _ | .ended .. | .record .. => none

/-- The outcome that arrives when a tenant's work ends; a crashed tenant has
none. -/
def arrival? (tenant : Tenant.State) : Option Tenant.Outcome :=
  match tenant.position with
  | .ended _ => tenant.outcome?
  | _ => none

/-- The effect of an event on a run, with the calls that begin. -/
def step (settings : Tenant.Settings) (state : State) : Event → Option (State × List Begun)
  | .raise => some ({ state with raised := true }, [])
  | .tenant index event =>
    match state.tenants[index]? with
    | none => none
    | some tenant =>
      (tenant.step settings state.raised event).map fun (next, effects) =>
        ({ state with
            tenants := state.tenants.setIfInBounds index next
            arrived := state.arrived ++ (arrival? next).toList
            recorder := recordAll state.recorder effects },
          begun index effects)

/-- Whether the work of every tenant is over. -/
def isOver (state : State) : Bool := state.tenants.all Tenant.State.isOver

/-- The report of a run. -/
def report (elapsed : Duration) (state : State) : Report :=
  { summary := state.recorder.summary
    tenants := Report.arrange state.tenants.size state.arrived
    elapsed
    interrupted := state.raised }

end State

/-- The state after a sequence of events, with all calls that began. -/
def State.run (settings : Tenant.Settings) (state : State) :
    List Event → Option (State × List Begun)
  | [] => some (state, [])
  | event :: rest => do
    let (state, calls) ← state.step settings event
    let (state, later) ← state.run settings rest
    pure (state, calls ++ later)

end Run
end TenantLoad
