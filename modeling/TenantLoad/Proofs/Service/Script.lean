import TenantLoad.Proofs.Run.Mirror
import TenantLoad.Service.Script

/-!
# Scripted services answer every tenant for itself

The rules of a script speak of the calls of one tenant, so what a scripted
service remembers of the other tenants does not matter to its answer.
-/

namespace TenantLoad
namespace Service

namespace Memory

/-- What is remembered of one tenant. -/
def only (tenant : Nat) (memory : Memory) : Memory :=
  { tables := memory.tables.filter fun table => decide (table.1 = tenant)
    calls := memory.calls.filter fun logged => decide (logged.tenant = tenant) }

@[simp] theorem slugs_only
    (tenant : Nat)
    (memory : Memory) :
    (memory.only tenant).slugs tenant = memory.slugs tenant := by
  unfold slugs only
  rw [List.filterMap_filter]
  apply List.filterMap_congr
  intro table _
  by_cases own : table.1 = tenant <;> simp [own]

@[simp] theorem countCalls_only
    (tenant : Nat)
    (memory : Memory)
    (condition : LoggedCall → Bool) :
    (memory.only tenant).countCalls tenant condition = memory.countCalls tenant condition := by
  unfold countCalls only
  rw [List.countP_filter]
  apply List.countP_congr
  intro logged _
  by_cases own : logged.tenant = tenant <;> simp [own]

end Memory

namespace Script

variable {script : Script}

@[simp] theorem facts_only
    (tenant : Nat)
    (memory : Memory)
    (call : Api.Call) :
    facts (memory.only tenant) tenant call = facts memory tenant call := by
  simp [facts, Memory.tableFor?, Memory.tableOf?]

@[simp] theorem raises_only
    (tenant : Nat)
    (memory : Memory)
    (stage : Stage) :
    script.raises (memory.only tenant) tenant stage = script.raises memory tenant stage := by
  simp [raises]

/-- The answer to a tenant depends on what is remembered of it. -/
theorem respond_only
    (tenant : Nat)
    (memory : Memory)
    (call : Api.Call) :
    script.respond (memory.only tenant) tenant call =
      ((script.respond memory tenant call).1,
        (script.respond memory tenant call).2.only tenant) := by
  simp only [respond, facts_only, raises_only, Prod.mk.injEq, true_and]
  simp only [Memory.only, Memory.mk.injEq]
  constructor
  · split <;> simp
  · simp

theorem respond_other
    {tenant other : Nat}
    (different : other ≠ tenant)
    (memory : Memory)
    (call : Api.Call) :
    (script.respond memory other call).2.only tenant = memory.only tenant := by
  simp only [respond, Memory.only, Memory.mk.injEq]
  constructor
  · split <;> simp [different]
  · simp [different]

/-- A scripted service answers every tenant for itself. -/
theorem separate_service (script : Script) :
    script.service.Separate fun tenant memory => Memory.only tenant memory where
  answer := by
    intro memory other tenant call same
    have first := script.respond_only tenant memory call
    have second := script.respond_only tenant other call
    rw [same, second] at first
    exact (congrArg Prod.fst first).symm
  own := by
    intro memory other tenant call same
    have first := script.respond_only tenant memory call
    have second := script.respond_only tenant other call
    rw [same, second] at first
    exact (congrArg Prod.snd first).symm
  others := by
    intro memory tenant other call different
    exact respond_other different memory call

/-- A script without a shutdown leaves the signal alone. -/
theorem calm_service
    (unraised : script.shutdown = []) :
    script.service.Calm := by
  intro memory tenant call
  simp [service, respond, raises, unraised]

end Script
end Service
end TenantLoad
