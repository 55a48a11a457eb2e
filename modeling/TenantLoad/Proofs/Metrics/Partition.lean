import TenantLoad.Proofs.Metrics.Permutation
import TenantLoad.Text.Number

/-!
# Counts that partition the entries

Every entry of a stage is counted once by its success and once by its status.
Statuses are counted under their names, so this needs different names for
different statuses, the missing one among them: a number is written in digits
only, and in one way.
-/

namespace TenantLoad
namespace Metrics

/-- Different statuses have different names, and none has that of a missing one. -/
theorem statusName_injective : Function.Injective statusName := by
  have notNone (status : Nat) : status.repr ≠ noStatus := by
    intro same
    have isDigit : 'n'.isDigit = true := Text.isDigit_of_mem_repr (by rw [same]; decide)
    exact absurd isDigit (by decide)
  rintro (_ | first) (_ | second) same
  · rfl
  · exact absurd same.symm (notNone second)
  · exact absurd same (notNone first)
  · exact congrArg some (Text.repr_inj.mp same)

/-- The counts of a summary partition entries. -/
structure StageSummary.Partitions (summary : StageSummary) (entries : List Entry) : Prop where
  requests : summary.requests = entries.length
  success : summary.success = entries.countP fun entry => entry.ok
  failure : summary.failure = entries.countP fun entry => !entry.ok
  /-- What has succeeded is part of the whole, and the rest has failed. -/
  whole : summary.success ≤ summary.requests ∧
    summary.success + summary.failure = summary.requests
  /-- The count of a status is the number of the entries that carry it. -/
  statusCount : ∀ status : Option Nat, summary.statusCount status =
    entries.countP fun entry => decide (entry.status = status)
  /-- What is listed is the positive count of a status. -/
  listed : ∀ counted ∈ summary.statusCounts, 0 < counted.2 ∧
    ∃ status, counted = (statusName status, summary.statusCount status)
  /-- The listed counts add up to the whole. -/
  total : (summary.statusCounts.map Prod.snd).sum = summary.requests

namespace StageSummary

variable (entries : List Entry)

theorem statusCount_ofEntries
    (status : Option Nat) :
    (ofEntries entries).statusCount status =
      entries.countP fun entry => decide (entry.status = status) := by
  rw [statusCount, count_statusCounts_ofEntries]
  refine List.countP_congr ?_
  intro entry _
  rw [beq_iff_eq, decide_eq_true_eq, statusName_injective.eq_iff]

/-- A name is listed with the count of the status that it names. -/
theorem exists_of_mem_statusCounts
    {counted : String × Nat}
    (listed : counted ∈ (ofEntries entries).statusCounts) :
    ∃ status, counted = (statusName status, (ofEntries entries).statusCount status) := by
  obtain ⟨name, occurrences⟩ := counted
  let names := entries.map fun entry => statusName entry.status
  obtain ⟨ascending, positive⟩ := Tally.ascending_and_positive_ofList names
  have counts : (Tally.ofList names).count name = occurrences := by
    rw [Tally.count, (lookup_eq_some_iff_mem ascending (name, occurrences)).mpr listed]
    rfl
  have occurs : name ∈ names := by
    rw [← List.count_pos_iff, ← Tally.count_ofList, counts]
    exact positive _ listed
  obtain ⟨entry, _, rfl⟩ := List.mem_map.mp occurs
  exact ⟨entry.status, Prod.ext rfl counts.symm⟩

/-- The counts of a summary partition the entries that it is of. -/
theorem partitions_ofEntries : (ofEntries entries).Partitions entries where
  requests := rfl
  success := rfl
  failure := failure_ofEntries entries
  whole := ⟨List.countP_le_length, Nat.add_sub_of_le List.countP_le_length⟩
  statusCount := statusCount_ofEntries entries
  listed := fun _ listed =>
    ⟨(Tally.ascending_and_positive_ofList _).2 _ listed, exists_of_mem_statusCounts entries listed⟩
  total := by
    change ((Tally.ofList (entries.map fun entry => statusName entry.status)).map Prod.snd).sum = _
    rw [Tally.sum_ofList, List.length_map]
    rfl

end StageSummary

namespace Recorder

variable (recorder : Recorder)

/-- All entries, one stage after the other. -/
def allEntries : List Entry := recorder.stages.flatMap fun stage => stage.2.toList

theorem totalCount_eq : recorder.totalCount = recorder.allEntries.length := by
  obtain ⟨stages⟩ := recorder
  unfold totalCount allEntries
  induction stages with
  | nil => rfl
  | cons stage stages inductionHypothesis =>
      rw [List.foldr_cons, inductionHypothesis, List.flatMap_cons, List.length_append]
      rfl

theorem totalRequests_summary : recorder.summary.totalRequests = recorder.allEntries.length := by
  obtain ⟨stages⟩ := recorder
  unfold Summary.totalRequests summary allEntries
  induction stages with
  | nil => rfl
  | cons stage stages inductionHypothesis =>
      rw [List.map_cons, List.foldr_cons, inductionHypothesis, List.flatMap_cons,
        List.length_append]
      rfl

theorem totalFailures_summary :
    recorder.summary.totalFailures = recorder.allEntries.countP fun entry => !entry.ok := by
  obtain ⟨stages⟩ := recorder
  unfold Summary.totalFailures summary allEntries
  induction stages with
  | nil => rfl
  | cons stage stages inductionHypothesis =>
      rw [List.map_cons, List.foldr_cons, inductionHypothesis, List.flatMap_cons,
        List.countP_append, StageSummary.failure_ofEntries]

end Recorder

/-- The counts of a stage partition its entries, statuses are told apart by their names,
and the totals of a recorder are those of all its entries. -/
theorem counts_partition_entries :
    (∀ entries, (StageSummary.ofEntries entries).Partitions entries) ∧
    Function.Injective statusName ∧
    ∀ recorder : Recorder,
      recorder.summary.totalRequests = recorder.totalCount ∧
      recorder.summary.totalFailures = recorder.allEntries.countP fun entry => !entry.ok :=
  ⟨StageSummary.partitions_ofEntries, statusName_injective, fun recorder =>
    ⟨recorder.totalRequests_summary.trans recorder.totalCount_eq.symm,
      recorder.totalFailures_summary⟩⟩

end Metrics
end TenantLoad
