import TenantLoad.Batch.Report
import Mathlib.Data.List.Basic

/-!
# Results of sound reports

A report of a complete batch tells of every item that was not started: by its
cancellation, or by the failure that ended a fail-fast batch.  In such a
report the outcomes leave one result, and the values of this result are those
of all items.
-/

namespace TenantLoad
namespace Batch

variable {Value Error : Type}

namespace Report

/-- Whether the report shows that an item failed. -/
def hasFailed (report : Report Value Error) (index : Nat) : Bool :=
  report.outcomes[index]?.any Outcome.isFailure

/-- What the report of a complete batch can be relied on for. -/
structure Sound (report : Report Value Error) : Prop where
  /-- Only shutdown and the halt of a failure keep items from starting. -/
  unstarted : .notStarted ∈ report.outcomes →
    report.cancelled = true ∨
      report.mode = .failFast ∧ ∃ outcome ∈ report.outcomes, outcome.isFailure = true
  /-- Shutdown counts only if it kept an item from starting. -/
  cancelled : report.cancelled = true → .notStarted ∈ report.outcomes
  first : ∀ index, report.firstFailure = some index → report.hasFailed index = true
  unfailed : report.firstFailure = none →
    ∀ outcome ∈ report.outcomes, outcome.isFailure = false

/-- How a result follows from the outcomes. -/
structure Settles [Retry.Retryable Error] (report : Report Value Error) : Prop where
  ok_iff : (∃ values, report.result = .ok values) ↔
    ∀ outcome ∈ report.outcomes, outcome.isSuccess = true
  values : ∀ values, report.result = .ok values →
    report.outcomes.map Outcome.value? = values.map some
  /-- A failure of a fail-fast batch is that of the item that failed first. -/
  aborted : report.mode = .failFast →
    (∃ outcome ∈ report.outcomes, outcome.isFailure = true) →
      ∃ index failure, report.firstFailure = some index ∧
        report.outcomes[index]? = some (.failed failure) ∧
        report.result = .error (.aborted index failure.attempts failure.kind
          (Text.excerpt Failure.exampleLimit failure.message))
  cancelled : report.cancelled = true →
    (report.mode = .failFast → ∀ outcome ∈ report.outcomes, outcome.isFailure = false) →
      ∃ completed failed, completed = report.outcomes.countP Outcome.isStarted ∧
        failed = report.outcomes.countP Outcome.isFailure ∧
        failed ≤ completed ∧ completed < report.outcomes.length ∧
        report.result = .error (.cancelled completed failed report.outcomes.length)
  aggregate : report.cancelled = false →
    (report.mode = .failFast → ∀ outcome ∈ report.outcomes, outcome.isFailure = false) →
      (∃ outcome ∈ report.outcomes, outcome.isSuccess = false) →
        report.result = .error (.aggregate report.failed report.outcomes.length
          (kindCounts report.failures) (examples report.failures))
  failFast_of_aborted : ∀ index attempts kind message,
    report.result = .error (.aborted index attempts kind message) → report.mode = .failFast
  failSoft_of_aggregate : ∀ failed total byKind examples,
    report.result = .error (.aggregate failed total byKind examples) → report.mode = .failSoft

variable {report : Report Value Error}

theorem failed_eq_zero_iff :
    report.failed = 0 ↔ ∀ outcome ∈ report.outcomes, outcome.isFailure = false := by
  simp [failed, List.countP_eq_zero]

/-- Every item that is not missing was started. -/
theorem total_sub_notStarted :
    report.total - report.notStarted = report.outcomes.countP Outcome.isStarted := by
  have parts := report.outcomes.length_eq_countP_add_countP Outcome.isStarted
  simp only [total, notStarted, Bool.not_eq_true, Bool.decide_eq_false] at parts ⊢
  omega

theorem failed_le_countP_isStarted :
    report.failed ≤ report.outcomes.countP Outcome.isStarted := by
  refine List.countP_mono_left ?_
  intro outcome _ fails
  cases outcome with
  | notStarted => cases fails
  | succeeded | failed => rfl

/-- Where all items succeeded no value is left out. -/
theorem map_value?_eq_map_some
    (succeeded : ∀ outcome ∈ report.outcomes, outcome.isSuccess = true) :
    report.outcomes.map Outcome.value? =
      (report.outcomes.filterMap Outcome.value?).map some := by
  rw [List.map_filterMap]
  have shown : ∀ outcome ∈ report.outcomes,
      Option.map some outcome.value? = some outcome.value? := by
    intro outcome member
    cases outcome with
    | succeeded => rfl
    | failed | notStarted => cases succeeded _ member
  rw [List.filterMap_congr shown, ← List.filterMap_eq_map]
  rfl

variable [Retry.Retryable Error]

/-- A fail-fast batch with a failure is aborted by the first one. -/
theorem Sound.abortion?_eq_some
    (sound : report.Sound)
    (failFast : report.mode = .failFast)
    (fails : ∃ outcome ∈ report.outcomes, outcome.isFailure = true) :
    ∃ index failure, report.firstFailure = some index ∧
      report.outcomes[index]? = some (.failed failure) ∧
      report.abortion? = some (.aborted index failure.attempts failure.kind
        (Text.excerpt Failure.exampleLimit failure.message)) := by
  obtain ⟨outcome, member, isFailure⟩ := fails
  cases first : report.firstFailure with
  | none =>
      have := sound.unfailed first outcome member
      simp [isFailure] at this
  | some index =>
      obtain ⟨shown, found, shownFails⟩ := (Option.any_eq_true _ _).mp (sound.first index first)
      cases shown with
      | failed failure => exact ⟨index, failure, rfl, found, by simp [abortion?, failFast, first, found]⟩
      | succeeded | notStarted => cases shownFails

/-- No other batch is aborted. -/
theorem abortion?_eq_none
    (spared : report.mode = .failFast →
      ∀ outcome ∈ report.outcomes, outcome.isFailure = false) :
    report.abortion? = none := by
  unfold abortion?
  split
  · rename_i index failFast first
    split
    · rename_i failure found
      have := spared failFast _ (List.mem_of_getElem? found)
      simp [Outcome.isFailure] at this
    · rfl
  · rfl

/-- The result of a batch that is not aborted. -/
theorem result_of_abortion?_eq_none
    (spared : report.abortion? = none) :
    report.result =
      if report.cancelled then
        .error (.cancelled (report.outcomes.countP Outcome.isStarted) report.failed
          report.outcomes.length)
      else if 0 < report.failed then
        .error (.aggregate report.failed report.outcomes.length (kindCounts report.failures)
          (examples report.failures))
      else
        .ok (report.outcomes.filterMap Outcome.value?) := by
  rw [← total_sub_notStarted]
  simp only [result, spared]
  rfl

theorem abortion?_eq_none_of_result_eq_ok
    {values : List Value}
    (isOk : report.result = .ok values) :
    report.abortion? = none := by
  cases aborted : report.abortion? with
  | none => rfl
  | some failure => simp [result, aborted] at isOk

/-- A batch that is aborted is not cancelled. -/
theorem isCancelled_of_abortion?_eq_some
    {failure : Failure}
    (aborted : report.abortion? = some failure) :
    failure.isCancelled = false := by
  unfold abortion? at aborted
  split at aborted
  · split at aborted
    · cases aborted
      rfl
    · cases aborted
  · cases aborted

/-- The failure of a batch is for shutdown only if its report is. -/
theorem cancelled_of_result_eq_error
    {failure : Failure}
    (isError : report.result = .error failure)
    (isCancelled : failure.isCancelled = true) :
    report.cancelled = true := by
  unfold result at isError
  split at isError
  · rename_i abortion aborted
    cases isError
    rw [isCancelled_of_abortion?_eq_some aborted] at isCancelled
    cases isCancelled
  · split at isError
    · assumption
    · split at isError
      · cases isError
        cases isCancelled
      · cases isError

/-- All items of a batch with values succeeded. -/
theorem Sound.isSuccess_of_result_eq_ok
    {values : List Value}
    (sound : report.Sound)
    (isOk : report.result = .ok values) :
    ∀ outcome ∈ report.outcomes, outcome.isSuccess = true := by
  rw [result_of_abortion?_eq_none (abortion?_eq_none_of_result_eq_ok isOk)] at isOk
  split at isOk
  · cases isOk
  · rename_i uncancelled
    split at isOk
    · cases isOk
    · rename_i none
      have unfailed := failed_eq_zero_iff.mp (Nat.eq_zero_of_not_pos none)
      intro outcome member
      cases outcome with
      | succeeded => rfl
      | failed => cases unfailed _ member
      | notStarted =>
          rcases sound.unstarted member with cancelled | ⟨_, other, otherMember, fails⟩
          · exact absurd cancelled uncancelled
          · simp [unfailed other otherMember] at fails

/-- A batch all of whose items succeeded has their values. -/
theorem Sound.result_eq_ok
    (sound : report.Sound)
    (succeeded : ∀ outcome ∈ report.outcomes, outcome.isSuccess = true) :
    report.result = .ok (report.outcomes.filterMap Outcome.value?) := by
  have unfailed : ∀ outcome ∈ report.outcomes, outcome.isFailure = false := by
    intro outcome member
    have := succeeded outcome member
    cases outcome with
    | succeeded | notStarted => rfl
    | failed => cases this
  have uncancelled : ¬report.cancelled = true := by
    intro cancelled
    cases succeeded _ (sound.cancelled cancelled)
  rw [result_of_abortion?_eq_none (abortion?_eq_none fun _ => unfailed), if_neg uncancelled,
    failed_eq_zero_iff.mpr unfailed, if_neg (Nat.lt_irrefl 0)]

/-- A sound report has the result that its outcomes call for. -/
theorem Sound.settles
    (sound : report.Sound) :
    report.Settles where
  ok_iff := by
    constructor
    · rintro ⟨values, isOk⟩
      exact sound.isSuccess_of_result_eq_ok isOk
    · intro succeeded
      exact ⟨_, sound.result_eq_ok succeeded⟩
  values := by
    intro values isOk
    have succeeded := sound.isSuccess_of_result_eq_ok isOk
    rw [sound.result_eq_ok succeeded, Except.ok.injEq] at isOk
    rw [map_value?_eq_map_some succeeded, isOk]
  aborted := by
    intro failFast fails
    obtain ⟨index, failure, first, found, aborted⟩ := sound.abortion?_eq_some failFast fails
    exact ⟨index, failure, first, found, by simp only [result, aborted]⟩
  cancelled := by
    intro cancelled spared
    refine ⟨_, _, rfl, rfl, failed_le_countP_isStarted, ?_, ?_⟩
    · have notAll : ¬report.outcomes.countP Outcome.isStarted = report.outcomes.length := by
        rw [List.countP_eq_length]
        intro started
        cases started _ (sound.cancelled cancelled)
      have := report.outcomes.countP_le_length (p := Outcome.isStarted)
      omega
    · rw [result_of_abortion?_eq_none (abortion?_eq_none spared), if_pos cancelled]
      rfl
  aggregate := by
    rintro uncancelled spared ⟨outcome, member, unsuccessful⟩
    have fails : 0 < report.failed := by
      rw [Nat.pos_iff_ne_zero]
      intro none
      have isOk : report.result = .ok (report.outcomes.filterMap Outcome.value?) := by
        rw [result_of_abortion?_eq_none (abortion?_eq_none spared)]
        simp [uncancelled, none]
      have := sound.isSuccess_of_result_eq_ok isOk outcome member
      simp [unsuccessful] at this
    rw [result_of_abortion?_eq_none (abortion?_eq_none spared), uncancelled,
      if_neg Bool.false_ne_true, if_pos fails]
  failFast_of_aborted := by
    intro index attempts kind message isAborted
    cases mode : report.mode with
    | failFast => rfl
    | failSoft =>
        rw [result_of_abortion?_eq_none (abortion?_eq_none (by simp [mode]))] at isAborted
        split at isAborted
        · cases isAborted
        · split at isAborted <;> cases isAborted
  failSoft_of_aggregate := by
    intro failed total byKind examples isAggregate
    cases mode : report.mode with
    | failSoft => rfl
    | failFast =>
        by_cases fails : ∃ outcome ∈ report.outcomes, outcome.isFailure = true
        · obtain ⟨index, failure, _, _, aborted⟩ := sound.abortion?_eq_some mode fails
          simp [result, aborted] at isAggregate
        · have unfailed : ∀ outcome ∈ report.outcomes, outcome.isFailure = false := by
            simpa using fails
          rw [result_of_abortion?_eq_none (abortion?_eq_none fun _ => unfailed),
            failed_eq_zero_iff.mpr unfailed, if_neg (Nat.lt_irrefl 0)] at isAggregate
          split at isAggregate <;> cases isAggregate

end Report

end Batch
end TenantLoad
