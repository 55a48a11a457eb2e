import Mathlib.Data.List.Sort
import TenantLoad.Proofs.Metrics.Counts

/-!
# Summaries forget the order of entries

A summary is the same for entries in any order, to the last bit of its lengths.
Sorting decides this: lengths of equal rank have equal bits, so there is only
one list that they are sorted to, and it is this list that is added up.
-/

namespace TenantLoad
namespace Metrics

section Members

variable {Value : Type} {members : List (String × Value)}

/-- Among members in ascending order of their names, those that are found are
those that are there. -/
theorem lookup_eq_some_iff_mem
    (ascending : (members.map Prod.fst).Pairwise (· < ·))
    (member : String × Value) :
    members.lookup member.1 = some member.2 ↔ member ∈ members := by
  rw [List.lookup_eq_some_iff]
  constructor
  · rintro ⟨earlier, later, rfl, -⟩
    exact List.mem_append_right _ (List.mem_cons_self ..)
  · intro isMember
    obtain ⟨earlier, later, rfl⟩ := List.append_of_mem isMember
    refine ⟨earlier, later, rfl, ?_⟩
    intro other isEarlier
    rw [List.map_append, List.pairwise_append] at ascending
    have before : other.1 < member.1 :=
      ascending.2.2 other.1 (List.mem_map_of_mem isEarlier) member.1 (by simp)
    exact bne_iff_ne.mpr (String.ne_of_lt before).symm

/-- Members in ascending order of their names are told apart by what is found
under the names. -/
theorem eq_of_lookup_eq
    {left right : List (String × Value)}
    (ascendingLeft : (left.map Prod.fst).Pairwise (· < ·))
    (ascendingRight : (right.map Prod.fst).Pairwise (· < ·))
    (agree : ∀ name, left.lookup name = right.lookup name) :
    left = right := by
  have orderedLeft := List.pairwise_map.mp ascendingLeft
  have orderedRight := List.pairwise_map.mp ascendingRight
  have nodup {members : List (String × Value)}
      (ordered : members.Pairwise fun earlier later => earlier.1 < later.1) : members.Nodup :=
    ordered.imp fun before same => String.ne_of_lt before (congrArg Prod.fst same)
  have permuted : left.Perm right := by
    rw [List.perm_ext_iff_of_nodup (nodup orderedLeft) (nodup orderedRight)]
    intro member
    rw [← lookup_eq_some_iff_mem ascendingLeft, ← lookup_eq_some_iff_mem ascendingRight, agree]
  refine permuted.eq_of_pairwise ?_ orderedLeft orderedRight
  intro earlier later _ _ before after
  exact absurd after (String.lt_asymm before)

end Members

end Metrics

namespace Tally

variable {tally : Tally} {name : String}

/-- Every name that is counted occurs. -/
def Positive (tally : Tally) : Prop := ∀ entry ∈ tally, 0 < entry.2

/-- Counting keeps the counts positive. -/
theorem Positive.add
    (positive : tally.Positive)
    (name : String) :
    (tally.add name).Positive := by
  unfold Positive at positive ⊢
  induction tally with
  | nil => simp [Tally.add]
  | cons head rest inductionHypothesis =>
      obtain ⟨first, count⟩ := head
      obtain ⟨here, later⟩ := List.forall_mem_cons.mp positive
      simp only [Tally.add]
      split
      · exact List.forall_mem_cons.mpr ⟨Nat.one_pos, positive⟩
      · split
        · exact List.forall_mem_cons.mpr ⟨Nat.succ_pos _, later⟩
        · exact List.forall_mem_cons.mpr ⟨here, inductionHypothesis later⟩

/-- The tally of names is in order and has only names that occur. -/
theorem ascending_and_positive_ofList
    (names : List String) :
    (ofList names).Ascending ∧ (ofList names).Positive := by
  have kept : ∀ tally : Tally, tally.Ascending → tally.Positive →
      Ascending (names.foldl (fun tally other => tally.add other) tally) ∧
        Positive (names.foldl (fun tally other => tally.add other) tally) := by
    induction names with
    | nil => exact fun _ ascending positive => ⟨ascending, positive⟩
    | cons other names inductionHypothesis =>
        intro tally ascending positive
        exact inductionHypothesis _ (ascending.add other) (positive.add other)
  exact kept [] .nil (List.forall_mem_nil _)

/-- A tally without empty counts has a name exactly if it counts it. -/
theorem lookup_eq_ite
    (positive : tally.Positive)
    (name : String) :
    tally.lookup name = if tally.count name = 0 then none else some (tally.count name) := by
  unfold count
  cases found : tally.lookup name with
  | none => rfl
  | some count =>
      obtain ⟨earlier, later, rfl, _⟩ := List.lookup_eq_some_iff.mp found
      have occurs : 0 < count := positive (name, count) (by simp)
      simp [occurs.ne']

/-- Names in any order have one tally. -/
theorem ofList_perm
    {names others : List String}
    (permuted : names.Perm others) :
    ofList names = ofList others := by
  obtain ⟨ascending, positive⟩ := ascending_and_positive_ofList names
  obtain ⟨ascendingToo, positiveToo⟩ := ascending_and_positive_ofList others
  refine Metrics.eq_of_lookup_eq ascending ascendingToo ?_
  intro name
  rw [lookup_eq_ite positive, lookup_eq_ite positiveToo, count_ofList, count_ofList,
    permuted.count_eq]

end Tally

namespace Metrics

namespace Millis

theorem isBefore_trans
    (first second third : Millis)
    (firstBefore : first.isBefore second = true)
    (secondBefore : second.isBefore third = true) :
    first.isBefore third = true := by
  simp only [isBefore, decide_eq_true_eq] at firstBefore secondBefore ⊢
  exact Int.le_trans firstBefore secondBefore

theorem isBefore_total
    (left right : Millis) :
    (left.isBefore right || right.isBefore left) = true := by
  simp only [isBefore, Bool.or_eq_true, decide_eq_true_eq]
  exact Int.le_total left.rank right.rank

/-- Lengths that stand on either side of each other have the same bits, those
that are no numbers and the zeros among them. -/
theorem isBefore_antisymm
    {left right : Millis}
    (before : left.isBefore right = true)
    (after : right.isBefore left = true) :
    left = right := by
  simp only [isBefore, decide_eq_true_eq] at before after
  exact rank_injective (Int.le_antisymm before after)

end Millis

namespace StageSummary

variable {entries others : List Entry}

/-- There is one order that lengths are sorted to. -/
theorem sortedLengths_perm
    (permuted : entries.Perm others) :
    sortedLengths entries = sortedLengths others := by
  have sorted (lengths : List Millis) := List.pairwise_mergeSort Millis.isBefore_trans
    Millis.isBefore_total lengths
  have sameLengths : (sortedLengths entries).Perm (sortedLengths others) :=
    (List.mergeSort_perm _ _).trans
      ((permuted.map Entry.duration).trans (List.mergeSort_perm _ _).symm)
  refine sameLengths.eq_of_pairwise ?_ (sorted _) (sorted _)
  exact fun _ _ _ _ before after => Millis.isBefore_antisymm before after

/-- The summary of a stage is the same for its entries in any order. -/
theorem ofEntries_perm
    (permuted : entries.Perm others) :
    ofEntries entries = ofEntries others := by
  have statuses := Tally.ofList_perm (permuted.map fun entry => statusName entry.status)
  unfold ofEntries
  rw [sortedLengths_perm permuted, statuses, permuted.length_eq, permuted.countP_eq]

end StageSummary

end Metrics
end TenantLoad
