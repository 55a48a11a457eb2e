import TenantLoad.Api.Body
import TenantLoad.Tenant.Stage

/-!
# Steps of a tenant's work

A tenant signs up and then takes one table after the other through its
creation, its columns, its rows and its searches.  Tables are counted from
zero in the order of their creation.
-/

namespace TenantLoad
namespace Tenant

/-- A step of a tenant's work. -/
inductive Task where
  | signUp
  | createTable (table : Nat)
  | addColumn (table : Nat) (column : Api.Column)
  | insertRows (table : Nat)
  | search (table : Nat)
  deriving Repr, DecidableEq

/-- The stage that a step belongs to. -/
def Task.stage : Task → Stage
  | .signUp => .signup
  | .createTable _ => .createTable
  | .addColumn .. => .addColumn
  | .insertRows _ => .addRow
  | .search _ => .search

/-- What a call is made for: a step, and in a batch an item and the number of
its attempt. -/
structure Origin where
  task : Task
  item : Option Nat := none
  attempt : Nat := 1
  deriving Repr, DecidableEq

end Tenant
end TenantLoad
