import TenantLoad.Json.Basic
import TenantLoad.Tenant.Failure

/-!
# How far a tenant got

An outcome names the tables that a tenant created and, if it stopped early,
the stage and the reason.
-/

namespace TenantLoad
namespace Tenant

/-- A table that a tenant created. -/
structure Table where
  name : String
  slug : String
  deriving Repr, DecidableEq

/-- The written form of a table. -/
def Table.toJson (table : Table) : Json :=
  .object [("name", .text table.name), ("slug", .text table.slug)]

/-- How far a tenant got. -/
structure Outcome where
  tenant : Nat
  orgSlug : String
  tables : List Table := []
  failedStage : Option Stage := none
  error : Option String := none
  cancelled : Bool := false
  deriving Repr, DecidableEq

namespace Outcome

/-- The outcome of a tenant that stopped for a reason. -/
def fail (outcome : Outcome) (failure : Failure) : Outcome :=
  { outcome with
    failedStage := failure.stage?
    error := some failure.message
    cancelled := failure.isCancelled }

/-- The error of a tenant that died without an outcome of its own. -/
def crashMessage : String := "tenant task panicked"

/-- The outcome of a tenant that died. -/
def crashed (tenant : Nat) (message : String) : Outcome :=
  { tenant, orgSlug := "", error := some message }

/-- Whether a tenant did all of its work. -/
def isSuccess (outcome : Outcome) : Bool := outcome.error.isNone

/-- The written form of an outcome. -/
def toJson (outcome : Outcome) : Json :=
  .object
    [("tenant", .natural outcome.tenant), ("org_slug", .text outcome.orgSlug),
      ("tables", .list (outcome.tables.map Table.toJson)),
      ("failed_stage", Json.optional (fun stage => .text stage.name) outcome.failedStage),
      ("error", Json.optional .text outcome.error), ("cancelled", .boolean outcome.cancelled)]

end Outcome
end Tenant
end TenantLoad
