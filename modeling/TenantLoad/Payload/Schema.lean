import TenantLoad.Api.Body

/-!
# The schema of the work items

Every tenant defines the same five columns on its tables and fills them from
fixed lists of values.
-/

namespace TenantLoad
namespace Payload

/-- The values of the status column. -/
def statuses : List String := ["open", "in_progress", "blocked", "complete"]

/-- The values of the category column. -/
def categories : List String := ["electrical", "mechanical", "safety", "general"]

/-- The fields that searches sort by. -/
def sortFields : List String := ["created_at", "title", "status", "category"]

/-- The sizes of the pages that searches ask for. -/
def pageSizes : List Nat := [10, 25, 50, 100]

/-- The status of finished work. -/
def completeStatus : String := "complete"

/-- The columns of a table, in the order of their creation. -/
def columns : List Api.Column :=
  [{ name := "title", type := .text, required := true, indexed := true },
    { name := "status", type := .choice, required := true, indexed := true,
      values := some statuses },
    { name := "category", type := .choice, indexed := true, values := some categories },
    { name := "cost", type := .number },
    { name := "completed", type := .truth }]

end Payload
end TenantLoad
