/-!
# Tallies

A tally counts occurrences of names.  Its entries stand in ascending order of
the names and every count is positive.
-/

namespace TenantLoad

/-- Counts by name, in ascending order of the names. -/
abbrev Tally := List (String × Nat)

namespace Tally

/-- Count one more occurrence of a name. -/
def add (name : String) : Tally → Tally
  | [] => [(name, 1)]
  | (other, count) :: rest =>
    if name < other then (name, 1) :: (other, count) :: rest
    else if name = other then (other, count + 1) :: rest
    else (other, count) :: add name rest

/-- The tally of a list of names. -/
def ofList (names : List String) : Tally := names.foldl (fun tally name => tally.add name) []

/-- The count of a name, zero if it does not occur. -/
def count (tally : Tally) (name : String) : Nat := (tally.lookup name).getD 0

end Tally
end TenantLoad
