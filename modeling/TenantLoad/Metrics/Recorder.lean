import TenantLoad.Metrics.Summary

/-!
# Recorders

A recorder keeps the entries of every stage in the order in which they were
recorded.  Stages stand in ascending order of their names and appear with
their first entry.
-/

namespace TenantLoad
namespace Metrics

/-- The entries of every stage. -/
structure Recorder where
  stages : List (String × Array Entry)

namespace Recorder

/-- A recorder without entries. -/
def empty : Recorder := ⟨[]⟩

/-- Append an entry to a stage of a list of stages. -/
def appendEntry (stage : String) (entry : Entry) :
    List (String × Array Entry) → List (String × Array Entry)
  | [] => [(stage, #[entry])]
  | (other, bucket) :: rest =>
    if stage < other then (stage, #[entry]) :: (other, bucket) :: rest
    else if stage = other then (other, bucket.push entry) :: rest
    else (other, bucket) :: appendEntry stage entry rest

/-- Record an entry of a stage. -/
def record (recorder : Recorder) (stage : String) (entry : Entry) : Recorder :=
  ⟨appendEntry stage entry recorder.stages⟩

/-- The names of the stages with entries. -/
def stageNames (recorder : Recorder) : List String := recorder.stages.map Prod.fst

/-- The entries of a stage. -/
def entries (recorder : Recorder) (stage : String) : List Entry :=
  ((recorder.stages.lookup stage).map Array.toList).getD []

/-- The number of entries of a stage. -/
def count (recorder : Recorder) (stage : String) : Nat := (recorder.entries stage).length

/-- The number of entries of all stages. -/
def totalCount (recorder : Recorder) : Nat :=
  recorder.stages.foldr (fun stage total => stage.2.size + total) 0

/-- The summaries of all stages. -/
def summary (recorder : Recorder) : Summary :=
  recorder.stages.map fun (name, bucket) => (name, StageSummary.ofEntries bucket.toList)

end Recorder
end Metrics
end TenantLoad
