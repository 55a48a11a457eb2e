import TenantLoad.Proofs.Tenant.Effects

/-!
# Interleavings

Several lists are interleaved by telling for every element of the whole which
list it comes from; those of each list stand in their own order.  What is
picked out of the whole interleaves what is picked out of the parts, and what
is counted of the whole is the sum of what is counted of the parts.
-/

namespace TenantLoad
namespace Run

variable {Element Picked : Type}

/-- The elements that come from one of the lists, in order. -/
def partAt (index : Nat) (tagged : List (Nat × Element)) : List Element :=
  (tagged.filter fun entry => decide (entry.1 = index)).map Prod.snd

/-- A whole that is made up of the elements of some lists, each in its own
order. -/
def Interleaves (parts : List (List Element)) (whole : List Element) : Prop :=
  ∃ tagged : List (Nat × Element),
    tagged.map Prod.snd = whole ∧ (∀ entry ∈ tagged, entry.1 < parts.length) ∧
      ∀ index part, parts[index]? = some part → part = partAt index tagged

variable {tagged : List (Nat × Element)} {index : Nat}

@[simp] theorem partAt_append
    (index : Nat)
    (earlier later : List (Nat × Element)) :
    partAt index (earlier ++ later) = partAt index earlier ++ partAt index later := by
  simp [partAt]

/-- Elements that all come from one list are that list's. -/
theorem partAt_map_self
    (index : Nat)
    (elements : List Element) :
    partAt index (elements.map fun element => (index, element)) = elements := by
  induction elements with
  | nil => rfl
  | cons element elements inductionHypothesis =>
      simpa [partAt] using inductionHypothesis

/-- Elements of one list are not those of another. -/
theorem partAt_map_of_ne
    {other : Nat}
    (different : other ≠ index)
    (elements : List Element) :
    partAt index (elements.map fun element => (other, element)) = [] := by
  simp [partAt, different]

/-- What is picked out of tagged elements keeps their tags. -/
theorem partAt_filterMap
    (pick : Element → Option Picked)
    (index : Nat)
    (tagged : List (Nat × Element)) :
    partAt index
        (tagged.filterMap fun entry => (pick entry.2).map fun picked => (entry.1, picked)) =
      (partAt index tagged).filterMap pick := by
  induction tagged with
  | nil => rfl
  | cons entry tagged inductionHypothesis =>
      rw [← List.singleton_append, List.filterMap_append, partAt_append, partAt_append,
        List.filterMap_append, inductionHypothesis]
      congr 1
      cases picked : pick entry.2 <;> by_cases here : entry.1 = index <;>
        simp [partAt, picked, here]

/-- The parts of tagged elements interleave to all of them. -/
theorem interleaves_partAt
    {count : Nat}
    (within : ∀ entry ∈ tagged, entry.1 < count) :
    Interleaves ((List.range count).map fun index => partAt index tagged)
      (tagged.map Prod.snd) := by
  refine ⟨tagged, rfl, ?_, ?_⟩
  · intro entry member
    simpa using within entry member
  · intro index part found
    rw [List.getElem?_map, Option.map_eq_some_iff] at found
    obtain ⟨place, isPlace, rfl⟩ := found
    rw [(List.getElem?_eq_some_iff.mp isPlace).2.symm, List.getElem_range]

namespace Interleaves

variable {parts : List (List Element)} {whole : List Element}

/-- What is picked out of a whole interleaves what is picked out of its
parts. -/
theorem filterMap
    (interleaves : Interleaves parts whole)
    (pick : Element → Option Picked) :
    Interleaves (parts.map (List.filterMap pick)) (whole.filterMap pick) := by
  obtain ⟨tagged, rfl, within, shares⟩ := interleaves
  refine
    ⟨tagged.filterMap fun entry => (pick entry.2).map fun picked => (entry.1, picked), ?_, ?_, ?_⟩
  · rw [List.map_filterMap, List.filterMap_map]
    apply List.filterMap_congr
    intro entry _
    cases picked : pick entry.2 <;> simp [picked]
  · intro entry member
    obtain ⟨source, isSource, picked⟩ := List.mem_filterMap.mp member
    obtain ⟨value, _, rfl⟩ := Option.map_eq_some_iff.mp picked
    rw [List.length_map]
    exact within source isSource
  · intro index part found
    rw [List.getElem?_map, Option.map_eq_some_iff] at found
    obtain ⟨source, isSource, rfl⟩ := found
    rw [partAt_filterMap, shares index source isSource]

/-- What is counted of a whole is counted part by part. -/
theorem countP_eq
    (interleaves : Interleaves parts whole)
    (holds : Element → Bool) :
    whole.countP holds = (parts.map (List.countP holds)).sum := by
  obtain ⟨tagged, rfl, within, shares⟩ := interleaves
  have parted : parts = (List.range parts.length).map fun index => partAt index tagged := by
    apply List.ext_getElem?
    intro index
    rw [List.getElem?_map]
    by_cases inside : index < parts.length
    · have found := List.getElem?_eq_getElem inside
      rw [found, shares index _ found, List.getElem?_range inside, Option.map_some]
    · have beyond : parts.length ≤ index := Nat.le_of_not_lt inside
      rw [List.getElem?_eq_none beyond,
        List.getElem?_eq_none (by rwa [List.length_range]), Option.map_none]
  have counted := Tenant.countP_eq_sum_of_nodup
    (fun entry : Nat × Element => holds entry.2) (List.nodup_range (n := parts.length))
    (fun entry member => List.mem_range.mpr (within entry member))
  rw [List.countP_map]
  refine counted.trans ?_
  conv_rhs => rw [parted]
  rw [List.map_map]
  congr 1
  apply List.map_congr_left
  intro index _
  exact (List.countP_map ..).symm

end Interleaves

end Run
end TenantLoad
