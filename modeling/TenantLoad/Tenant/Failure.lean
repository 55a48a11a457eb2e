import TenantLoad.Api.Error
import TenantLoad.Batch.Report
import TenantLoad.Tenant.Stage

/-!
# Why a tenant stops

The first step that does not complete ends a tenant's work.
-/

namespace TenantLoad
namespace Tenant

/-- Why a tenant stopped. -/
inductive Failure where
  | connect (tenant : Nat) (source : Api.Error)
  | signup (email : String) (source : Api.Error)
  | createTable (name : String) (source : Api.Error)
  | addColumn (table column : String) (source : Api.Error)
  | insertRows (table : String) (source : Batch.Failure)
  | search (table : String) (source : Batch.Failure)
  /-- Shutdown was requested before a stage. -/
  | cancelled (stage : Stage)
  /-- The run could not be set up. -/
  | setup (message : String)
  deriving Repr, DecidableEq

namespace Failure

/-- The text of a failure. -/
def message : Failure → String
  | .connect tenant source => s!"tenant {tenant} could not open a connection: {source.message}"
  | .signup email source => s!"signup failed for {email}: {source.message}"
  | .createTable name source => s!"creating table {name} failed: {source.message}"
  | .addColumn table column source => s!"adding column {column} to {table} failed: {source.message}"
  | .insertRows table source => s!"row inserts into {table} failed: {source.message}"
  | .search table source => s!"searches on {table} failed: {source.message}"
  | .cancelled stage => s!"shutdown requested before {stage.name}"
  | .setup message => s!"invalid run setup: {message}"

/-- The stage that a tenant was in when it stopped. -/
def stage? : Failure → Option Stage
  | .connect .. | .signup .. => some .signup
  | .createTable .. => some .createTable
  | .addColumn .. => some .addColumn
  | .insertRows .. => some .addRow
  | .search .. => some .search
  | .cancelled stage => some stage
  | .setup _ => none

/-- Whether shutdown is the reason. -/
def isCancelled : Failure → Bool
  | .cancelled _ => true
  | .insertRows _ source | .search _ source => source.isCancelled
  | _ => false

end Failure
end Tenant
end TenantLoad
