/-!
# Stages of a tenant's work

The kinds of calls that a tenant makes, in the order in which a table goes
through them.  A stage is also the name under which its calls are recorded.
-/

namespace TenantLoad

/-- A stage of a tenant's work. -/
inductive Stage where
  | signup
  | createTable
  | addColumn
  | addRow
  | search
  deriving Repr, DecidableEq

namespace Stage

/-- The name of a stage. -/
def name : Stage → String
  | .signup => "signup"
  | .createTable => "create_table"
  | .addColumn => "add_column"
  | .addRow => "add_row"
  | .search => "search"

/-- All stages in order. -/
def all : List Stage := [.signup, .createTable, .addColumn, .addRow, .search]

/-- The stage of a name. -/
def ofName? (name : String) : Option Stage := all.find? fun stage => stage.name == name

@[simp] theorem ofName?_name (stage : Stage) : ofName? stage.name = some stage := by
  cases stage <;> decide

/-- Stages are told apart by their names. -/
theorem name_injective {left right : Stage} (same : left.name = right.name) : left = right := by
  have := congrArg ofName? same
  simpa using this

end Stage
end TenantLoad
