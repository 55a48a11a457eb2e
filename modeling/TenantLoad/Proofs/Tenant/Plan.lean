import TenantLoad.Tenant.Machine
import Mathlib.Algebra.BigOperators.Group.List.Basic
import Mathlib.Algebra.GroupWithZero.Nat
import Mathlib.Data.List.Nodup

/-!
# The plan of a tenant

The steps that a tenant has before it, in order: the signup, and then for one
table after the other its creation, its columns, its rows and its searches.
A step is a single call or a batch of them, one for each of its items.
-/

namespace TenantLoad
namespace Tenant

namespace Settings

/-- The number of tables to create. -/
def tableCount (settings : Settings) : Nat := settings.workload.tablesPerTenant.toNat

/-- The number of rows to insert into every table. -/
def rowCount (settings : Settings) : Nat := settings.workload.rowsPerTable.toNat

/-- The number of searches to make on every table. -/
def searchCount (settings : Settings) : Nat := settings.workload.searchRequests.toNat

end Settings

namespace Task

/-- The table that a step is about. -/
def table? : Task → Option Nat
  | .signUp => none
  | .createTable table | .addColumn table _ | .insertRows table | .search table => some table

/-- Whether a step is a single call. -/
def isSingle : Task → Bool
  | .signUp | .createTable _ | .addColumn .. => true
  | .insertRows _ | .search _ => false

/-- What a step makes calls for: every row and every search is an item, and a
single call is for none. -/
def items (settings : Settings) : Task → List (Option Nat)
  | .signUp | .createTable _ | .addColumn .. => [none]
  | .insertRows _ => (List.range settings.rowCount).map some
  | .search _ => (List.range settings.searchCount).map some

end Task

/-- The most calls that a tenant has under way at a time in a stage. -/
def Settings.width (settings : Settings) : Stage → Nat
  | .signup | .createTable | .addColumn => 1
  | .addRow => max 1 settings.workload.rowConcurrency.toNat
  | .search => max 1 settings.workload.searchConcurrency.toNat

/-- The steps that follow the creation of a table, from its given columns on. -/
def columnTasks (table : Nat) (columns : List Api.Column) : List Task :=
  columns.map (.addColumn table) ++ [.insertRows table, .search table]

/-- The steps of a table. -/
def tableTasks (table : Nat) : List Task :=
  .createTable table :: columnTasks table Payload.columns

/-- The steps of the tables from the given one on. -/
def Settings.tasksFrom (settings : Settings) (table : Nat) : List Task :=
  (List.range' table (settings.tableCount - table)).flatMap tableTasks

/-- All steps in order. -/
def Settings.plan (settings : Settings) : List Task :=
  .signUp :: (List.range settings.tableCount).flatMap tableTasks

variable {settings : Settings} {table : Nat} {task : Task}

theorem Settings.plan_eq (settings : Settings) :
    settings.plan = .signUp :: settings.tasksFrom 0 := by
  rw [plan, tasksFrom, Nat.sub_zero, List.range_eq_range']

theorem Settings.tasksFrom_of_lt
    (left : table < settings.tableCount) :
    settings.tasksFrom table = tableTasks table ++ settings.tasksFrom (table + 1) := by
  have count : settings.tableCount - table = settings.tableCount - (table + 1) + 1 := by omega
  rw [tasksFrom, count, List.range'_succ, List.flatMap_cons, tasksFrom]

theorem Settings.tasksFrom_of_le
    (enough : settings.tableCount ≤ table) :
    settings.tasksFrom table = [] := by
  rw [tasksFrom, Nat.sub_eq_zero_of_le enough, List.range'_zero, List.flatMap_nil]

theorem table?_of_mem_tableTasks
    (member : task ∈ tableTasks table) :
    task.table? = some table := by
  simp only [tableTasks, columnTasks, List.mem_cons, List.mem_append, List.mem_map,
    List.not_mem_nil, or_false] at member
  rcases member with rfl | ⟨column, _, rfl⟩ | rfl | rfl <;> rfl

theorem nodup_tableTasks (table : Nat) : (tableTasks table).Nodup := by
  have columns : (Payload.columns.map (Task.addColumn table)).Nodup := by
    refine List.Nodup.map ?_ (by decide)
    intro first second same
    exact (Task.addColumn.inj same).2
  simp only [tableTasks, columnTasks, List.nodup_cons, List.nodup_append]
  simp [columns]

/-- No step is planned twice. -/
theorem Settings.nodup_plan (settings : Settings) : settings.plan.Nodup := by
  rw [plan, List.nodup_cons]
  constructor
  · intro member
    obtain ⟨table, _, here⟩ := List.mem_flatMap.mp member
    cases table?_of_mem_tableTasks here
  · rw [List.nodup_flatMap]
    refine ⟨fun table _ => nodup_tableTasks table, ?_⟩
    refine List.nodup_range.imp ?_
    intro first second different task here there
    have same := (table?_of_mem_tableTasks here).symm.trans (table?_of_mem_tableTasks there)
    exact different (Option.some.inj same)

/-- No item of a step occurs twice. -/
theorem Task.nodup_items
    (settings : Settings)
    (task : Task) :
    (task.items settings).Nodup := by
  cases task with
  | signUp | createTable | addColumn => exact List.nodup_singleton none
  | insertRows | search => exact List.nodup_range.map fun _ _ => Option.some.inj

/-- The planned steps: the signup and those of the tables to create. -/
theorem Settings.mem_plan_iff :
    task ∈ settings.plan ↔
      task = .signUp ∨ ∃ table < settings.tableCount, task ∈ tableTasks table := by
  simp only [plan, List.mem_cons, List.mem_flatMap, List.mem_range]

/-- What every table counts for, added up over some tables. -/
theorem sum_map_tableTasks
    {count : Task → Nat}
    {each : Nat}
    (table : ∀ table, ((tableTasks table).map count).sum = each)
    (tables : List Nat) :
    ((tables.flatMap tableTasks).map count).sum = tables.length * each := by
  induction tables with
  | nil => simp
  | cons head tables inductionHypothesis =>
      rw [List.flatMap_cons, List.map_append, List.sum_append, table, inductionHypothesis,
        List.length_cons, Nat.succ_mul, Nat.add_comm]

end Tenant
end TenantLoad
