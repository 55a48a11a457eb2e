import TenantLoad.Api.Body
import TenantLoad.Tenant.Outcome
import TenantLoad.Text.Quoted

/-!
# The context of a signed-up tenant

A context holds a tenant's identity, its connection and the tables it has
created.  The connection is released when the context is torn down or
dropped.
-/

namespace TenantLoad
namespace Tenant

/-- The identity, connection and tables of a tenant. -/
structure Context where
  index : Nat
  identity : Api.Signup
  tables : List Table := []
  released : Bool := false
  deriving Repr, DecidableEq

namespace Context

/-- The context with another table. -/
def addTable (context : Context) (table : Table) : Context :=
  { context with tables := context.tables ++ [table] }

/-- The context after the connection has been released, and its tables. -/
def teardown (context : Context) : Context × List Table :=
  ({ context with tables := [], released := true }, context.tables)

/-- How many hold the tenant's connection besides the one who opened it. -/
def holders (context : Context) : Nat := if context.released then 0 else 1

/-- A table as text. -/
def tableText (table : Table) : String :=
  "ResourceHandle \x7b name: " ++ Text.quoted table.name ++ ", slug: " ++ Text.quoted table.slug ++
    " \x7d"

/-- A context as text. -/
def text (context : Context) : String :=
  "TenantContext \x7b index: " ++ toString context.index ++ ", org_slug: " ++
    Text.quoted context.identity.orgSlug ++ ", resources: [" ++
    ", ".intercalate (context.tables.map tableText) ++ "], released: " ++
    toString context.released ++ " \x7d"

end Context
end Tenant
end TenantLoad
