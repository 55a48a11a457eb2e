import TenantLoad.Proofs.Metrics.Permutation
import TenantLoad.Proofs.Run.Interleaving

/-!
# Several writers of one recorder

Every call of a writer holds the recorder to itself, so what several writers do
is some interleaving of their calls.  No entry is lost or doubled in it, and the
summary of all that has been recorded is the same for every interleaving, since
a summary is told by the entries of each stage in any order.
-/

namespace TenantLoad
namespace Metrics

open TenantLoad.Run (Interleaves)

/-- A call that records an entry at a stage. -/
structure Writing where
  stage : String
  entry : Entry

namespace Writing

/-- The entries that calls record at a stage, in the order of the calls. -/
def entriesAt (stage : String) (writings : List Writing) : List Entry :=
  writings.filterMap fun writing =>
    if writing.stage = stage then some writing.entry else none

end Writing

/-- What a summary of the entries that calls have recorded is: it names the stages
of the calls in ascending order and gives for each of them the summary of its
entries. -/
structure Summary.TellsOf (summary : Summary) (writings : List Writing) : Prop where
  ascending : (summary.map Prod.fst).Pairwise (· < ·)
  stage?_eq : ∀ stage, summary.stage? stage =
    if Writing.entriesAt stage writings = [] then none
    else some (.ofEntries (Writing.entriesAt stage writings))

namespace Summary.TellsOf

variable {summary other : Summary} {writings permuted : List Writing}

/-- There is one summary of calls in any order. -/
theorem eq_of_perm
    (tells : summary.TellsOf writings)
    (tellsToo : other.TellsOf permuted)
    (isPermuted : writings.Perm permuted) :
    summary = other := by
  refine eq_of_lookup_eq tells.ascending tellsToo.ascending ?_
  intro stage
  have sameEntries :
      (Writing.entriesAt stage writings).Perm (Writing.entriesAt stage permuted) :=
    isPermuted.filterMap _
  have emptyToo : Writing.entriesAt stage writings = [] ↔ Writing.entriesAt stage permuted = [] :=
    ⟨fun empty => List.perm_nil.mp (empty ▸ sameEntries).symm,
      fun empty => List.perm_nil.mp (empty ▸ sameEntries)⟩
  have found := tells.stage?_eq stage
  have foundToo := tellsToo.stage?_eq stage
  unfold stage? at found foundToo
  rw [found, foundToo, StageSummary.ofEntries_perm sameEntries]
  simp only [emptyToo]

/-- A stage that is named has had a request. -/
theorem requests_pos
    (tells : summary.TellsOf writings)
    {named : String × StageSummary}
    (member : named ∈ summary) :
    0 < named.2.requests := by
  have found := (lookup_eq_some_iff_mem tells.ascending named).mpr member
  have told := tells.stage?_eq named.1
  rw [stage?, found] at told
  split at told
  · cases told
  · rename_i filled
    rw [Option.some.inj told]
    exact List.length_pos_of_ne_nil filled

end Summary.TellsOf

namespace Recorder

/-- The recorder after calls. -/
def afterWritings (recorder : Recorder) (writings : List Writing) : Recorder :=
  writings.foldl (fun recorder writing => recorder.record writing.stage writing.entry) recorder

/-- No stage is without entries. -/
def Filled (recorder : Recorder) : Prop := ∀ stage ∈ recorder.stages, stage.2.toList ≠ []

variable {recorder : Recorder}

theorem filled_empty : empty.Filled := List.forall_mem_nil _

/-- A stage appears with its first entry. -/
theorem Filled.record
    (filled : recorder.Filled)
    (stage : String)
    (entry : Entry) :
    (recorder.record stage entry).Filled := by
  obtain ⟨stages⟩ := recorder
  unfold Filled at filled ⊢
  simp only [Recorder.record]
  induction stages with
  | nil => simp [appendEntry]
  | cons head rest inductionHypothesis =>
      obtain ⟨other, bucket⟩ := head
      obtain ⟨here, later⟩ := List.forall_mem_cons.mp filled
      simp only [appendEntry]
      split
      · exact List.forall_mem_cons.mpr ⟨by simp, filled⟩
      · split
        · exact List.forall_mem_cons.mpr ⟨by simp, later⟩
        · exact List.forall_mem_cons.mpr ⟨here, inductionHypothesis later⟩

/-- What calls leave: the stages in order, none of them empty, and what was
recorded behind what there was. -/
theorem afterWritings_spec
    (ascending : recorder.Ascending)
    (filled : recorder.Filled)
    (writings : List Writing) :
    (recorder.afterWritings writings).Ascending ∧ (recorder.afterWritings writings).Filled ∧
      ∀ stage, (recorder.afterWritings writings).entries stage =
        recorder.entries stage ++ Writing.entriesAt stage writings := by
  induction writings generalizing recorder with
  | nil => exact ⟨ascending, filled, fun stage => (List.append_nil _).symm⟩
  | cons writing writings inductionHypothesis =>
      obtain ⟨ascendingNext, filledNext, entriesNext⟩ := inductionHypothesis
        (ascending.record writing.stage writing.entry)
        (filled.record writing.stage writing.entry)
      refine ⟨ascendingNext, filledNext, ?_⟩
      intro stage
      rw [afterWritings, List.foldl_cons]
      rw [afterWritings] at entriesNext
      rw [entriesNext, entries_record ascending, List.append_assoc]
      congr 1
      by_cases own : writing.stage = stage
      · simp [Writing.entriesAt, own]
      · simp [Writing.entriesAt, own, Ne.symm own]

/-- The bucket of a stage is there exactly if the stage has entries. -/
theorem Filled.lookup_eq
    (filled : recorder.Filled)
    (stage : String) :
    (recorder.stages.lookup stage).map Array.toList =
      if recorder.entries stage = [] then none else some (recorder.entries stage) := by
  unfold entries
  cases found : recorder.stages.lookup stage with
  | none => rfl
  | some bucket =>
      obtain ⟨earlier, later, split, _⟩ := List.lookup_eq_some_iff.mp found
      have nonempty : bucket.toList ≠ [] := filled (stage, bucket) (by rw [split]; simp)
      simp only [Option.map_some, Option.getD_some, if_neg nonempty]

/-- The summary after calls on a new recorder tells of these calls. -/
theorem tellsOf_summary
    (writings : List Writing) :
    (Recorder.empty.afterWritings writings).summary.TellsOf writings := by
  obtain ⟨ascending, filled, recorded⟩ :=
    afterWritings_spec ascending_empty filled_empty writings
  refine ⟨?_, ?_⟩
  · have names : (Recorder.empty.afterWritings writings).summary.map Prod.fst =
        (Recorder.empty.afterWritings writings).stageNames := by
      simp [summary, stageNames]
    rw [names]
    exact ascending
  · intro stage
    have recordedHere : (Recorder.empty.afterWritings writings).entries stage =
        Writing.entriesAt stage writings := recorded stage
    rw [stage?_summary, ← recordedHere]
    have found := filled.lookup_eq stage
    rw [← Function.comp_def StageSummary.ofEntries Array.toList, ← Option.map_map, found]
    split <;> rfl

end Recorder

/-- Two interleavings of the same calls differ in their order only. -/
theorem perm_of_interleaves
    {Element : Type}
    {parts : List (List Element)}
    {whole other : List Element}
    (interleaves : Interleaves parts whole)
    (interleavesToo : Interleaves parts other) :
    whole.Perm other := by
  classical
  rw [List.perm_iff_count]
  intro element
  exact (interleaves.countP_eq _).trans (interleavesToo.countP_eq _).symm

/-- Whatever the order in which the calls of several writers come, each stage
holds all entries that were written at it, those of each writer in its own order,
and the summary is the same; for it is told by the entries of each stage in any
order, whatever their lengths.  A summary that is taken earlier tells of what was
written until then and names no stage without a request. -/
theorem summary_ignores_the_schedule
    {writers : List (List Writing)}
    {whole other : List Writing}
    (interleaves : Interleaves writers whole)
    (interleavesToo : Interleaves writers other) :
    (∀ stage, Interleaves (writers.map (Writing.entriesAt stage))
      ((Recorder.empty.afterWritings whole).entries stage)) ∧
    (Recorder.empty.afterWritings whole).summary =
      (Recorder.empty.afterWritings other).summary ∧
    (∀ entries permuted : List Entry, entries.Perm permuted →
      StageSummary.ofEntries entries = StageSummary.ofEntries permuted) ∧
    ∀ earlier later, whole = earlier ++ later →
      (Recorder.empty.afterWritings earlier).summary.TellsOf earlier ∧
        ∀ named ∈ (Recorder.empty.afterWritings earlier).summary, 0 < named.2.requests := by
  refine ⟨?_, ?_, ?_, ?_⟩
  · intro stage
    obtain ⟨-, -, recorded⟩ :=
      Recorder.afterWritings_spec Recorder.ascending_empty Recorder.filled_empty whole
    rw [recorded stage]
    exact interleaves.filterMap _
  · exact (Recorder.tellsOf_summary whole).eq_of_perm (Recorder.tellsOf_summary other)
      (perm_of_interleaves interleaves interleavesToo)
  · exact fun _ _ permuted => StageSummary.ofEntries_perm permuted
  · intro earlier _ _
    have tells := Recorder.tellsOf_summary earlier
    exact ⟨tells, fun _ member => tells.requests_pos member⟩

/-- Two writers of one stage, with lengths that are zeros of either sign, infinite
or no number; each writer's calls come first in one of the interleavings. -/
theorem summary_ignores_the_schedule_of_odd_lengths :
    let call (stage : String) (bits : UInt64) : Writing := ⟨stage, ⟨⟨bits⟩, some 200, true, []⟩⟩
    let zero := call "search" 0
    let negativeZero := call "search" 0x8000000000000000
    let infinite := call "signup" 0x7FF0000000000000
    let notANumber := call "search" 0xFFF8000000000000
    let writers := [[zero, infinite], [notANumber, negativeZero]]
    let whole := [zero, notANumber, infinite, negativeZero]
    let other := [notANumber, negativeZero, zero, infinite]
    Interleaves writers whole ∧ Interleaves writers other ∧
      (Recorder.empty.afterWritings whole).entries "search" ≠
        (Recorder.empty.afterWritings other).entries "search" ∧
      (Recorder.empty.afterWritings whole).summary =
        (Recorder.empty.afterWritings other).summary ∧
      (Recorder.empty.afterWritings [zero, notANumber]).summary.TellsOf [zero, notANumber] := by
  intro call zero negativeZero infinite notANumber writers whole other
  have interleaves : Interleaves writers whole := by
    refine ⟨[(0, zero), (1, notANumber), (0, infinite), (1, negativeZero)], rfl, by decide, ?_⟩
    intro index part found
    match index with
    | 0 => cases found; rfl
    | 1 => cases found; rfl
    | _ + 2 => cases found
  have interleavesToo : Interleaves writers other := by
    refine ⟨[(1, notANumber), (1, negativeZero), (0, zero), (0, infinite)], rfl, by decide, ?_⟩
    intro index part found
    match index with
    | 0 => cases found; rfl
    | 1 => cases found; rfl
    | _ + 2 => cases found
  obtain ⟨-, same, -, soFar⟩ := summary_ignores_the_schedule interleaves interleavesToo
  refine ⟨interleaves, interleavesToo, ?_, same, (soFar [zero, notANumber] _ rfl).1⟩
  intro sameEntries
  have sameBits := congrArg (List.map fun entry => entry.duration.bits) sameEntries
  exact absurd sameBits (by decide)

end Metrics
end TenantLoad
