import TenantLoad.Metrics.Entry
import TenantLoad.Metrics.Percentile
import TenantLoad.Json.Printer
import TenantLoad.Tally

/-!
# Summaries of stages

A summary counts the entries of a stage by success and by status and gives
the average, the extremes and two percentiles of their lengths.  Lengths are
sorted by the total order of floats before they are added, so a summary does
not depend on the order of the entries.
-/

namespace TenantLoad
namespace Metrics

/-- The name under which calls without an answer are counted. -/
def noStatus : String := "none"

/-- The name under which a status is counted. -/
def statusName : Option Nat → String
  | some status => toString status
  | none => noStatus

/-- The aggregate of one stage.  Lengths are not numbers when there are no
entries. -/
structure StageSummary where
  requests : Nat
  success : Nat
  failure : Nat
  statusCounts : Tally
  average : Float
  least : Float
  most : Float
  median : Float
  percentile95 : Float

namespace StageSummary

/-- The lengths of entries in the total order of floats. -/
def sortedLengths (entries : List Entry) : List Millis :=
  (entries.map Entry.duration).mergeSort Millis.isBefore

/-- The sum of floats, taken from the left and starting at negative zero. -/
def sum (values : List Float) : Float := values.foldl (fun total value => total + value) (-0.0)

/-- The summary of the entries of a stage. -/
def ofEntries (entries : List Entry) : StageSummary :=
  let lengths := (sortedLengths entries).map Millis.toFloat
  let success := entries.countP Entry.ok
  let sorted := lengths.toArray
  { requests := entries.length
    success
    failure := entries.length - success
    statusCounts := Tally.ofList (entries.map fun entry => statusName entry.status)
    average :=
      if lengths.isEmpty then notANumber
      else sum lengths / (UInt64.ofNat lengths.length).toFloat
    least := lengths.head?.getD notANumber
    most := lengths.getLast?.getD notANumber
    median := percentile notANumber sorted 0.5
    percentile95 := percentile notANumber sorted 0.95 }

/-- The requests per second over a time in seconds; not a number for a time
that is not positive. -/
def throughput (summary : StageSummary) (seconds : Float) : Float :=
  if seconds > 0.0 then (UInt64.ofNat summary.requests).toFloat / seconds else notANumber

/-- The number of entries with a status. -/
def statusCount (summary : StageSummary) (status : Option Nat) : Nat :=
  summary.statusCounts.count (statusName status)

/-- The written form of a summary, its fields in ascending order. -/
def toJson (summary : StageSummary) : Json :=
  .object
    [("avg_ms", .real summary.average),
      ("failure", .natural summary.failure),
      ("max_ms", .real summary.most),
      ("min_ms", .real summary.least),
      ("p50_ms", .real summary.median),
      ("p95_ms", .real summary.percentile95),
      ("requests", .natural summary.requests),
      ("status_counts",
        .object (summary.statusCounts.map fun (status, count) => (status, .natural count))),
      ("success", .natural summary.success)]

end StageSummary

/-- The summaries of all stages, in ascending order of their names. -/
abbrev Summary := List (String × StageSummary)

namespace Summary

/-- The summary of a stage. -/
def stage? (summary : Summary) (stage : String) : Option StageSummary := summary.lookup stage

/-- The calls of all stages. -/
def totalRequests (summary : Summary) : Nat :=
  summary.foldr (fun stage total => stage.2.requests + total) 0

/-- The failed calls of all stages. -/
def totalFailures (summary : Summary) : Nat :=
  summary.foldr (fun stage total => stage.2.failure + total) 0

/-- The written form of a summary. -/
def toJson (summary : Summary) : Json :=
  .object (summary.map fun (name, stage) => (name, stage.toJson))

/-- The compact text of a summary. -/
def compactText (summary : Summary) : String := summary.toJson.compact

/-- The indented text of a summary. -/
def prettyText (summary : Summary) : String := summary.toJson.pretty

end Summary
end Metrics
end TenantLoad
