import TenantLoad.Proofs.Metrics.Recorder
import Mathlib.Algebra.GroupWithZero.Nat

/-!
# What summaries count

A tally of names counts each name as often as it occurs, and a summary counts
at every stage what the entries of that stage come to, nothing at a stage
without entries.
-/

namespace TenantLoad

namespace Tally

variable {tally : Tally} {name : String}

/-- Every name stands before later names. -/
def Ascending (tally : Tally) : Prop := (tally.map Prod.fst).Pairwise (· < ·)

theorem mem_add
    {other : String}
    (member : other ∈ (tally.add name).map Prod.fst) :
    other = name ∨ other ∈ tally.map Prod.fst := by
  induction tally with
  | nil => exact Or.inl (List.mem_singleton.mp member)
  | cons head rest inductionHypothesis =>
      obtain ⟨first, count⟩ := head
      simp only [add] at member
      split at member
      · exact List.mem_cons.mp member
      · split at member
        · exact Or.inr member
        · rcases List.mem_cons.mp member with here | later
          · exact Or.inr (here ▸ List.mem_cons_self ..)
          · exact (inductionHypothesis later).imp id (List.mem_cons_of_mem _)

/-- Counting keeps the names in order. -/
theorem Ascending.add
    (ascending : tally.Ascending)
    (name : String) :
    (tally.add name).Ascending := by
  unfold Ascending at ascending ⊢
  induction tally with
  | nil => exact List.pairwise_singleton _ _
  | cons head rest inductionHypothesis =>
      obtain ⟨first, count⟩ := head
      obtain ⟨before, ascendingRest⟩ := List.pairwise_cons.mp ascending
      simp only [Tally.add]
      split
      · rename_i earlier
        refine List.pairwise_cons.mpr ⟨?_, ascending⟩
        intro other member
        rcases List.mem_cons.mp member with rfl | later
        · exact earlier
        · exact String.lt_trans earlier (before other later)
      · split
        · exact ascending
        · rename_i notEarlier different
          have later : first < name := by
            rcases Decidable.em (first < name) with later | notLater
            · exact later
            · exact absurd
                (String.le_antisymm (String.not_lt.mp notLater) (String.not_lt.mp notEarlier))
                different
          refine List.pairwise_cons.mpr ⟨?_, inductionHypothesis ascendingRest⟩
          intro other member
          rcases mem_add member with rfl | known
          · exact later
          · exact before other known

/-- One more occurrence of a name counts for that name only. -/
theorem count_add
    (ascending : tally.Ascending)
    (name other : String) :
    (tally.add name).count other = tally.count other + if other = name then 1 else 0 := by
  unfold Ascending at ascending
  unfold count
  induction tally with
  | nil =>
      rw [add, Metrics.lookup_cons_eq_ite]
      by_cases here : other = name <;> simp [here]
  | cons head rest inductionHypothesis =>
      obtain ⟨first, occurrences⟩ := head
      obtain ⟨before, ascendingRest⟩ := List.pairwise_cons.mp ascending
      simp only [add]
      split
      · rename_i earlier
        have unknown : ((first, occurrences) :: rest).lookup name = none := by
          rw [List.lookup_eq_none_iff]
          intro entry member
          rw [bne_iff_ne]
          apply String.ne_of_lt
          rcases List.mem_cons.mp member with rfl | later
          · exact earlier
          · exact String.lt_trans earlier (before entry.1 (List.mem_map_of_mem later))
        rw [Metrics.lookup_cons_eq_ite]
        by_cases here : other = name
        · subst here
          simp [unknown]
        · simp [here]
      · split
        · rename_i same
          subst same
          rw [Metrics.lookup_cons_eq_ite, Metrics.lookup_cons_eq_ite]
          by_cases here : other = name <;> simp [here]
        · rename_i different
          rw [Metrics.lookup_cons_eq_ite, Metrics.lookup_cons_eq_ite]
          by_cases here : other = first
          · subst here
            simp [Ne.symm different]
          · simpa [here] using inductionHypothesis ascendingRest

/-- A tally of names counts each of them as often as it occurs. -/
theorem count_ofList
    (names : List String)
    (name : String) :
    (ofList names).count name = names.count name := by
  have counted : ∀ tally : Tally, tally.Ascending →
      (names.foldl (fun tally other => tally.add other) tally).count name =
        tally.count name + names.count name := by
    induction names with
    | nil =>
        intro tally _
        rfl
    | cons other names inductionHypothesis =>
        intro tally ascending
        rw [List.foldl_cons, inductionHypothesis _ (ascending.add other),
          count_add ascending, List.count_cons, Nat.add_right_comm, Nat.add_assoc]
        simp only [beq_iff_eq, @eq_comm _ name other]
  have counts := counted [] .nil
  rw [ofList, counts]
  exact Nat.zero_add _

/-- The counts of a tally add up to the number of names. -/
theorem sum_ofList (names : List String) : ((ofList names).map Prod.snd).sum = names.length := by
  have added : ∀ (tally : Tally) (name : String),
      ((tally.add name).map Prod.snd).sum = (tally.map Prod.snd).sum + 1 := by
    intro tally name
    induction tally with
    | nil => rfl
    | cons head rest inductionHypothesis =>
        obtain ⟨first, count⟩ := head
        simp only [add]
        split
        · simp [Nat.add_comm, Nat.add_left_comm]
        · split
          · simp [Nat.add_right_comm]
          · simp [inductionHypothesis, Nat.add_assoc]
  have counted : ∀ tally : Tally,
      ((names.foldl (fun tally name => tally.add name) tally).map Prod.snd).sum =
        (tally.map Prod.snd).sum + names.length := by
    induction names with
    | nil => exact fun _ => rfl
    | cons name names inductionHypothesis =>
        intro tally
        rw [List.foldl_cons, inductionHypothesis, added, List.length_cons]
        omega
  simpa [ofList] using counted []

end Tally

namespace Metrics

namespace StageSummary

variable (entries : List Entry)

theorem requests_ofEntries : (ofEntries entries).requests = entries.countP fun _ => true :=
  congrFun List.countP_true.symm entries

/-- The calls that did not succeed are those that failed. -/
theorem failure_ofEntries :
    (ofEntries entries).failure = entries.countP fun entry => !entry.ok := by
  have parted : entries.length =
      entries.countP (fun entry => entry.ok) + entries.countP (fun entry => !entry.ok) := by
    simpa using List.length_eq_countP_add_countP (fun entry : Entry => entry.ok)
  change entries.length - entries.countP (fun entry => entry.ok) = _
  rw [parted, Nat.add_sub_cancel_left]

theorem count_statusCounts_ofEntries
    (name : String) :
    (ofEntries entries).statusCounts.count name =
      entries.countP fun entry => statusName entry.status == name := by
  change (Tally.ofList (entries.map fun entry => statusName entry.status)).count name = _
  rw [Tally.count_ofList, List.count, List.countP_map]
  rfl

/-- The counts in the summary of a stage. -/
inductive IsCount : (StageSummary → Nat) → Prop where
  | requests : IsCount StageSummary.requests
  | success : IsCount StageSummary.success
  | failure : IsCount StageSummary.failure
  | status (name : String) : IsCount fun summary => summary.statusCounts.count name

/-- Every count is one of entries by themselves. -/
theorem IsCount.exists_countP
    {counted : StageSummary → Nat}
    (isCount : IsCount counted) :
    ∃ holds : Entry → Bool, ∀ entries, counted (ofEntries entries) = entries.countP holds := by
  cases isCount with
  | requests => exact ⟨_, requests_ofEntries⟩
  | success => exact ⟨Entry.ok, fun _ => rfl⟩
  | failure => exact ⟨_, failure_ofEntries⟩
  | status name => exact ⟨_, fun entries => count_statusCounts_ofEntries entries name⟩

end StageSummary

/-- What a summary counts at a stage. -/
def Summary.countAt (counted : StageSummary → Nat) (stage : String) (summary : Summary) : Nat :=
  ((summary.stage? stage).map counted).getD 0

theorem Recorder.stage?_summary
    (recorder : Recorder)
    (name : String) :
    recorder.summary.stage? name =
      (recorder.stages.lookup name).map fun bucket => StageSummary.ofEntries bucket.toList := by
  obtain ⟨stages⟩ := recorder
  unfold Recorder.summary Summary.stage?
  induction stages with
  | nil => rfl
  | cons head rest inductionHypothesis =>
      obtain ⟨other, bucket⟩ := head
      rw [List.map_cons, lookup_cons_eq_ite, lookup_cons_eq_ite, inductionHypothesis]
      by_cases here : name = other
      · rw [if_pos here, if_pos here, Option.map_some]
      · rw [if_neg here, if_neg here]

/-- A summary counts at a stage what there is among the entries of the stage. -/
theorem Recorder.countAt_summary
    {counted : StageSummary → Nat}
    (isCount : StageSummary.IsCount counted)
    (recorder : Recorder)
    (name : String) :
    recorder.summary.countAt counted name = counted (.ofEntries (recorder.entries name)) := by
  unfold Summary.countAt entries
  rw [recorder.stage?_summary]
  cases recorder.stages.lookup name with
  | some bucket => rfl
  | none =>
      obtain ⟨holds, counts⟩ := isCount.exists_countP
      exact (counts []).symm

end Metrics
end TenantLoad
