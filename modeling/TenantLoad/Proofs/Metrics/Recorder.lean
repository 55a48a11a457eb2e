import TenantLoad.Metrics.Recorder

/-!
# Entries and recorders

An entry that is recorded is appended to the entries of its stage and to no
others.  This needs the stages to stand in ascending order of their names,
which recording keeps.
-/

namespace TenantLoad
namespace Metrics

/-- The first member of a list of members, and the rest. -/
theorem lookup_cons_eq_ite
    {Value : Type}
    (name other : String)
    (value : Value)
    (members : List (String × Value)) :
    ((other, value) :: members).lookup name =
      if name = other then some value else members.lookup name := by
  rw [List.lookup_cons]
  by_cases same : name = other
  · simp [same]
  · rw [beq_eq_false_iff_ne.mpr same, if_neg same]

/-- A member that is put into a list is found there, and the others are as
before. -/
theorem lookup_insertMember
    {Value : Type}
    (name key : String)
    (value : Value)
    (members : List (String × Value)) :
    (Json.insertMember key value members).lookup name =
      if name = key then some value else members.lookup name := by
  induction members with
  | nil => rw [Json.insertMember, lookup_cons_eq_ite]
  | cons head rest inductionHypothesis =>
      obtain ⟨other, kept⟩ := head
      simp only [Json.insertMember]
      split
      · rw [lookup_cons_eq_ite]
      · split
        · rename_i same
          subst same
          rw [lookup_cons_eq_ite, lookup_cons_eq_ite]
          by_cases here : name = key <;> simp only [here, if_true, if_false]
        · rename_i different
          rw [lookup_cons_eq_ite, inductionHypothesis, lookup_cons_eq_ite]
          by_cases here : name = other
          · subst here
            simp only [if_true, if_neg (Ne.symm different)]
          · simp only [if_neg here]

namespace Recorder

/-- Every stage stands before those of later names. -/
def Ascending (recorder : Recorder) : Prop := recorder.stageNames.Pairwise (· < ·)

variable {stage : String} {entry : Entry} {stages : List (String × Array Entry)}
  {recorder : Recorder}

theorem ascending_empty : Ascending .empty := .nil

/-- Appending an entry adds no stage but its own. -/
theorem mem_appendEntry
    {name : String}
    (member : name ∈ (appendEntry stage entry stages).map Prod.fst) :
    name = stage ∨ name ∈ stages.map Prod.fst := by
  induction stages with
  | nil => exact Or.inl (List.mem_singleton.mp member)
  | cons head rest inductionHypothesis =>
      obtain ⟨other, bucket⟩ := head
      simp only [appendEntry] at member
      split at member
      · exact List.mem_cons.mp member
      · split at member
        · exact Or.inr member
        · rcases List.mem_cons.mp member with here | later
          · exact Or.inr (here ▸ List.mem_cons_self ..)
          · exact (inductionHypothesis later).imp id (List.mem_cons_of_mem _)

/-- Recording keeps the stages in order. -/
theorem Ascending.record
    (ascending : recorder.Ascending)
    (stage : String)
    (entry : Entry) :
    (recorder.record stage entry).Ascending := by
  obtain ⟨stages⟩ := recorder
  unfold Ascending stageNames at ascending ⊢
  induction stages with
  | nil => exact List.pairwise_singleton _ _
  | cons head rest inductionHypothesis =>
      obtain ⟨other, bucket⟩ := head
      obtain ⟨before, ascendingRest⟩ := List.pairwise_cons.mp ascending
      simp only [Recorder.record, appendEntry]
      split
      · rename_i earlier
        refine List.pairwise_cons.mpr ⟨?_, ascending⟩
        intro name member
        rcases List.mem_cons.mp member with rfl | later
        · exact earlier
        · exact String.lt_trans earlier (before name later)
      · split
        · exact ascending
        · rename_i notEarlier different
          have later : other < stage := by
            rcases Decidable.em (other < stage) with later | notLater
            · exact later
            · exact absurd
                (String.le_antisymm (String.not_lt.mp notLater) (String.not_lt.mp notEarlier))
                different
          refine List.pairwise_cons.mpr ⟨?_, inductionHypothesis ascendingRest⟩
          intro name member
          rcases mem_appendEntry member with rfl | known
          · exact later
          · exact before name known

theorem lookup_eq_none_of_lt
    (before : ∀ name ∈ stages.map Prod.fst, stage < name) :
    stages.lookup stage = none := by
  rw [List.lookup_eq_none_iff]
  intro other member
  rw [bne_iff_ne]
  exact String.ne_of_lt (before other.1 (List.mem_map_of_mem member))

/-- An entry is appended to its own stage. -/
theorem lookup_appendEntry
    (ascending : (stages.map Prod.fst).Pairwise (· < ·))
    (name : String) :
    (appendEntry stage entry stages).lookup name =
      if name = stage then some (((stages.lookup stage).getD #[]).push entry)
      else stages.lookup name := by
  induction stages with
  | nil => rw [appendEntry, lookup_cons_eq_ite]; rfl
  | cons head rest inductionHypothesis =>
      obtain ⟨other, bucket⟩ := head
      obtain ⟨before, ascendingRest⟩ := List.pairwise_cons.mp ascending
      simp only [appendEntry]
      split
      · rename_i earlier
        have unknown : ((other, bucket) :: rest).lookup stage = none := by
          refine lookup_eq_none_of_lt ?_
          intro later member
          rcases List.mem_cons.mp member with rfl | member
          · exact earlier
          · exact String.lt_trans earlier (before later member)
        rw [unknown, lookup_cons_eq_ite]
        rfl
      · split
        · rename_i same
          subst same
          simp only [lookup_cons_eq_ite, if_true, Option.getD_some]
          by_cases here : name = stage <;> simp only [here, if_true, if_false]
        · rename_i different
          simp only [lookup_cons_eq_ite, inductionHypothesis ascendingRest, if_neg different]
          by_cases here : name = other
          · subst here
            simp only [if_true, if_neg (Ne.symm different)]
          · simp only [if_neg here]

/-- An entry adds to the entries of its own stage. -/
theorem entries_record
    (ascending : recorder.Ascending)
    (stage : String)
    (entry : Entry)
    (name : String) :
    (recorder.record stage entry).entries name =
      recorder.entries name ++ if name = stage then [entry] else [] := by
  rw [entries, Recorder.record, lookup_appendEntry ascending, entries]
  by_cases same : name = stage
  · subst same
    cases known : recorder.stages.lookup name <;> simp
  · simp [same]

end Recorder
end Metrics
end TenantLoad
