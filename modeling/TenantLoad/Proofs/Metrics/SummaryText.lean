import TenantLoad.Proofs.Json.Text
import TenantLoad.Proofs.Metrics.Writers
import TenantLoad.Proofs.Text.ByteOrder
import Mathlib.Algebra.Order.BigOperators.Group.List

/-!
# Summaries are read back from their texts

The compact and the indented text of a summary are read as one object.  It has a
member for each stage, with the fields of the summary of that stage, and its names
stand in the order of their bytes.
-/

namespace TenantLoad

/-! ## Objects that have been read -/

namespace Json.Written

/-- The members of an object. -/
def members : Written → List (Option String × Written)
  | .object members => members
  | _ => []

/-- The value of the member of a name. -/
def member? (name : String) (written : Written) : Option Written :=
  written.members.lookup (some name)

/-- A name stands before another by its bytes. -/
def Precedes (first second : Option String) : Prop :=
  ∃ name other, first = some name ∧ second = some other ∧ Text.bytes name < Text.bytes other

/-- The names of the members are in strict order, at every level. -/
inductive Ascends : Written → Prop where
  | null : Ascends .null
  | boolean (value : Bool) : Ascends (.boolean value)
  | number (value : Option Number) : Ascends (.number value)
  | text (value : Option String) : Ascends (.text value)
  | list
      {items : List Written}
      (inside : ∀ item ∈ items, Ascends item) :
      Ascends (.list items)
  | object
      {members : List (Option String × Written)}
      (ordered : (members.map Prod.fst).Pairwise Precedes)
      (inside : ∀ member ∈ members, Ascends member.2) :
      Ascends (.object members)

/-- The natural number that is read. -/
def natural? : Written → Option Nat
  | .number (some (.integer value)) => some value.toNat
  | _ => none

/-- The natural numbers by name that are read. -/
def naturals? : Written → Option (List (String × Nat))
  | .object members => members.mapM fun (name, value) =>
      name.bind fun name => value.natural?.map fun value => (name, value)
  | _ => none

end Json.Written

namespace Json

theorem writtenMembers_eq_map (members : List (String × Json)) :
    writtenMembers members = members.map fun (name, value) => (some name, value.written) := by
  induction members with
  | nil => rfl
  | cons member members inductionHypothesis =>
      rw [writtenMembers, inductionHypothesis, List.map_cons]

theorem names_writtenMembers (members : List (String × Json)) :
    (writtenMembers members).map Prod.fst = (members.map Prod.fst).map some := by
  rw [writtenMembers_eq_map, List.map_map, List.map_map]
  rfl

/-- An object whose names are in order is read as one. -/
theorem ascends_object
    {members : List (String × Json)}
    (ascending : (members.map Prod.fst).Pairwise (· < ·))
    (inside : ∀ member ∈ members, member.2.written.Ascends) :
    (object members).written.Ascends := by
  apply Written.Ascends.object
  · rw [names_writtenMembers, List.pairwise_map]
    exact ascending.imp fun less => ⟨_, _, rfl, rfl, Text.bytes_lt_bytes_iff.mpr less⟩
  · rw [writtenMembers_eq_map, List.forall_mem_map]
    exact inside

/-- A count that fits a word is read back. -/
theorem natural?_written_natural
    {value : Nat}
    (fits : value < 2 ^ 64) :
    (natural value).written.natural? = some value := by
  rw [natural, written, tokenNumber?_natural fits]
  rfl

theorem naturals?_written
    {tally : List (String × Nat)}
    (fits : ∀ entry ∈ tally, entry.2 < 2 ^ 64) :
    (object (tally.map fun (name, count) => (name, .natural count))).written.naturals? =
      some tally := by
  change (writtenMembers _).mapM _ = _
  induction tally with
  | nil => rfl
  | cons entry tally inductionHypothesis =>
      obtain ⟨here, later⟩ := List.forall_mem_cons.mp fits
      rw [List.map_cons, writtenMembers, List.mapM_cons, inductionHypothesis later]
      simp [natural?_written_natural here]

end Json

namespace Metrics

open Json

variable {summary : StageSummary} {written : Written}

/-- The lengths that a summary gives, by the names of their fields. -/
def StageSummary.lengths (summary : StageSummary) : List (String × Float) :=
  [("avg_ms", summary.average), ("max_ms", summary.most), ("min_ms", summary.least),
    ("p50_ms", summary.median), ("p95_ms", summary.percentile95)]

/-- What is read has the fields of a summary. -/
structure StageSummary.IsReadAs (summary : StageSummary) (written : Written) : Prop where
  names : written.members.map Prod.fst =
    ["avg_ms", "failure", "max_ms", "min_ms", "p50_ms", "p95_ms", "requests", "status_counts",
      "success"].map some
  /-- Exactly the lengths that are not finite are absent. -/
  lengths : ∀ length ∈ summary.lengths, ∃ field, written.member? length.1 = some field ∧
    if Decimal.isFinite length.2.toBits then
      field = .number (tokenNumber? (realText length.2).toList)
    else
      field = .null
  /-- Counts that fit a word are read back. -/
  counts : summary.requests < 2 ^ 64 →
    (written.member? "requests").bind Written.natural? = some summary.requests ∧
    (written.member? "success").bind Written.natural? = some summary.success ∧
    (written.member? "failure").bind Written.natural? = some summary.failure ∧
    (written.member? "status_counts").bind Written.naturals? = some summary.statusCounts

theorem written_real (value : Float) :
    if Decimal.isFinite value.toBits then
      (Json.real value).written = .number (tokenNumber? (realText value).toList)
    else
      (Json.real value).written = .null := by
  rw [Json.written]
  split <;> rfl

namespace StageSummary

variable {entries : List Entry}

theorem success_ofEntries_le : (ofEntries entries).success ≤ (ofEntries entries).requests :=
  List.countP_le_length

theorem statusCounts_ofEntries_le :
    ∀ entry ∈ (ofEntries entries).statusCounts, entry.2 ≤ (ofEntries entries).requests := by
  intro entry member
  have total := Tally.sum_ofList (entries.map fun entry => statusName entry.status)
  rw [List.length_map] at total
  calc entry.2
      ≤ ((ofEntries entries).statusCounts.map Prod.snd).sum :=
        List.single_le_sum (fun _ _ => Nat.zero_le _) _ (List.mem_map_of_mem member)
    _ = (ofEntries entries).requests := total

theorem isReadAs_written : (ofEntries entries).IsReadAs (ofEntries entries).toJson.written where
  names := rfl
  lengths := by
    simp only [lengths, List.forall_mem_cons, List.not_mem_nil, false_implies, implies_true,
      and_true]
    exact ⟨⟨_, rfl, written_real _⟩, ⟨_, rfl, written_real _⟩, ⟨_, rfl, written_real _⟩,
      ⟨_, rfl, written_real _⟩, ⟨_, rfl, written_real _⟩⟩
  counts := by
    intro fits
    have fewer : (ofEntries entries).success ≤ (ofEntries entries).requests := success_ofEntries_le
    refine ⟨natural?_written_natural fits, natural?_written_natural (by omega),
      natural?_written_natural (Nat.lt_of_le_of_lt (Nat.sub_le ..) fits), naturals?_written ?_⟩
    exact fun entry member => Nat.lt_of_le_of_lt (statusCounts_ofEntries_le entry member) fits

/-- The names of the fields are declared in order, and those of a tally are kept so. -/
theorem ascends_written : (ofEntries entries).toJson.written.Ascends := by
  have counts : (object ((ofEntries entries).statusCounts.map fun (status, count) =>
      (status, .natural count))).written.Ascends := by
    obtain ⟨ascending, -⟩ :=
      Tally.ascending_and_positive_ofList (entries.map fun entry => statusName entry.status)
    apply ascends_object
    · rw [List.map_map]
      exact ascending
    · rw [List.forall_mem_map]
      exact fun _ _ => .number _
  have real (value : Float) : (Json.real value).written.Ascends := by
    rw [Json.written]
    split
    · exact .number _
    · exact .null
  apply ascends_object
  · change ["avg_ms", "failure", "max_ms", "min_ms", "p50_ms", "p95_ms", "requests",
      "status_counts", "success"].Pairwise (· < ·)
    decide
  · simp only [List.forall_mem_cons, List.not_mem_nil, false_implies, implies_true, and_true]
    exact ⟨real _, .number _, real _, real _, real _, real _, .number _, counts, .number _⟩

end StageSummary

theorem Summary.members_written (summary : Summary) :
    summary.toJson.written.members =
      summary.map fun (stage, told) => (some stage, told.toJson.written) := by
  change writtenMembers _ = _
  rw [writtenMembers_eq_map, List.map_map]
  rfl

namespace Summary.TellsOf

variable {summary : Summary} {writings : List Writing}

/-- The stages of a summary are those with entries. -/
theorem mem_iff
    (tells : summary.TellsOf writings)
    (stage : String)
    (told : StageSummary) :
    (stage, told) ∈ summary ↔
      Writing.entriesAt stage writings ≠ [] ∧
        told = .ofEntries (Writing.entriesAt stage writings) := by
  rw [← lookup_eq_some_iff_mem tells.ascending, ← Summary.stage?, tells.stage?_eq]
  split
  · next empty => simp [empty]
  · next filled => simp [filled, eq_comm]

theorem ascends_written
    (tells : summary.TellsOf writings) :
    summary.toJson.written.Ascends := by
  apply ascends_object
  · rw [List.map_map]
    exact tells.ascending
  · rw [List.forall_mem_map]
    rintro ⟨stage, told⟩ member
    obtain ⟨-, rfl⟩ := (tells.mem_iff stage told).mp member
    exact StageSummary.ascends_written

/-- The members of what is read are the stages with entries. -/
theorem mem_members_iff
    (tells : summary.TellsOf writings)
    (name : Option String)
    (written : Written) :
    (name, written) ∈ summary.toJson.written.members ↔
      ∃ stage, name = some stage ∧ Writing.entriesAt stage writings ≠ [] ∧
        written = (StageSummary.ofEntries (Writing.entriesAt stage writings)).toJson.written := by
  rw [members_written, List.mem_map]
  constructor
  · rintro ⟨⟨stage, told⟩, member, same⟩
    cases same
    obtain ⟨filled, rfl⟩ := (tells.mem_iff stage told).mp member
    exact ⟨stage, rfl, filled, rfl⟩
  · rintro ⟨stage, rfl, filled, rfl⟩
    exact ⟨(stage, _), (tells.mem_iff stage _).mpr ⟨filled, rfl⟩, rfl⟩

end Summary.TellsOf

/-- Both texts of the summary of a recorder, whatever has been recorded, are read as one object.  It
has one member for each stage with entries and no other, which has the fields of the summary of
these entries: a length is absent exactly if it is not finite, and the counts are read back.  The
names are in the strict order of their bytes at every level. -/
theorem summary_texts_are_read_back (writings : List Writing) :
    ∃ members,
      Written.parse? (Recorder.empty.afterWritings writings).summary.compactText =
        some (.object members) ∧
      Written.parse? (Recorder.empty.afterWritings writings).summary.prettyText =
        some (.object members) ∧
      (Written.object members).Ascends ∧
      (members.map Prod.fst).Nodup ∧
      (∀ name, name ∈ members.map Prod.fst ↔
        ∃ stage, name = some stage ∧ Writing.entriesAt stage writings ≠ []) ∧
      ∀ stage written, (some stage, written) ∈ members →
        (StageSummary.ofEntries (Writing.entriesAt stage writings)).IsReadAs written := by
  have tells := Recorder.tellsOf_summary writings
  generalize (Recorder.empty.afterWritings writings).summary = summary at tells ⊢
  refine ⟨summary.toJson.written.members, parse?_compact _, parse?_pretty _, tells.ascends_written,
    ?_, ?_, ?_⟩
  · have names : summary.toJson.written.members.map Prod.fst = (summary.map Prod.fst).map some := by
      rw [summary.members_written, List.map_map, List.map_map]
      rfl
    rw [names]
    exact List.Nodup.map (Option.some_injective String) (tells.ascending.imp String.ne_of_lt)
  · intro name
    simp only [List.mem_map, Prod.exists, exists_and_right, exists_eq_right, tells.mem_members_iff]
    constructor
    · rintro ⟨_, stage, isName, filled, -⟩
      exact ⟨stage, isName, filled⟩
    · rintro ⟨stage, isName, filled⟩
      exact ⟨_, stage, isName, filled, rfl⟩
  · intro stage written member
    obtain ⟨_, same, -, rfl⟩ := (tells.mem_members_iff _ _).mp member
    cases same
    exact StageSummary.isReadAs_written

/-- A stage with a quote and a control character in its name and a length that is no number. -/
theorem summary_texts_are_read_back_of_odd_names :
    let call (stage : String) (bits : UInt64) : Writing := ⟨stage, ⟨⟨bits⟩, some 200, true, []⟩⟩
    let writings := [call "\"\x01" 0x7FF8000000000000, call "é" 0, call "\"\x01" 0]
    ∃ members,
      Written.parse? (Recorder.empty.afterWritings writings).summary.compactText =
        some (.object members) ∧
      Written.parse? (Recorder.empty.afterWritings writings).summary.prettyText =
        some (.object members) ∧
      ∃ written, (some "\"\x01", written) ∈ members ∧
        (written.member? "requests").bind Written.natural? = some 2 ∧
        (written.member? "status_counts").bind Written.naturals? = some [("200", 2)] := by
  intro call writings
  obtain ⟨members, compact, pretty, -, -, names, stages⟩ := summary_texts_are_read_back writings
  refine ⟨members, compact, pretty, ?_⟩
  obtain ⟨⟨name, written⟩, member, same⟩ :=
    List.mem_map.mp ((names _).mpr ⟨"\"\x01", rfl, by decide⟩)
  cases same
  obtain ⟨requests, -, -, statusCounts⟩ := (stages _ written member).counts (by decide)
  exact ⟨written, member, requests, statusCounts.trans (by decide)⟩

end Metrics
end TenantLoad
