import TenantLoad.Batch.TimedRun
import TenantLoad.Proofs.Batch.FailFast

/-!
# The failures that a result speaks of

The failure of a batch counts all failed items, except that the one of an
aborted batch counts the item that failed first alone.  In a fail-fast batch
every failed item was engaged when the first one raised the halt, so what is
left out are fewer items than there are slots.
-/

namespace TenantLoad
namespace Batch

variable {Value Error : Type}

/-! ## What a result counts -/

namespace Report

/-- The failures of a report are at the places that show one. -/
theorem failed_eq_length_filter
    (report : Report Value Error) :
    report.failed = ((List.range report.outcomes.length).filter report.hasFailed).length :=
  (length_filter_range report.outcomes Outcome.isFailure).symm

variable [Retry.Retryable Error] {report : Report Value Error} {failure : Failure}

/-- A fail-soft result counts every failure. -/
theorem failedCount_of_failSoft
    (failSoft : report.mode = .failSoft)
    (isError : report.result = .error failure) :
    failure.failedCount = report.failed := by
  rw [result_of_abortion?_eq_none (abortion?_eq_none (by simp [failSoft]))] at isError
  split at isError
  · cases isError
    rfl
  · split at isError
    · cases isError
      rfl
    · cases isError

/-- A fail-fast result counts one failure if there is any. -/
theorem Sound.failedCount_of_failFast
    (sound : report.Sound)
    (failFast : report.mode = .failFast)
    (isError : report.result = .error failure) :
    failure.failedCount = min 1 report.failed := by
  by_cases fails : ∃ outcome ∈ report.outcomes, outcome.isFailure = true
  · obtain ⟨index, first, _, _, aborted⟩ := sound.abortion?_eq_some failFast fails
    have some : 0 < report.failed := List.countP_pos_iff.mpr fails
    simp only [result, aborted, Except.error.injEq] at isError
    subst isError
    exact (Nat.min_eq_left some).symm
  · have unfailed : ∀ outcome ∈ report.outcomes, outcome.isFailure = false := by
      simpa using fails
    have none := failed_eq_zero_iff.mpr unfailed
    rw [result_of_abortion?_eq_none (abortion?_eq_none fun _ => unfailed), none,
      if_neg (Nat.lt_irrefl 0)] at isError
    rw [none]
    split at isError
    · cases isError
      rfl
    · cases isError

end Report

/-! ## What fails after the halt -/

/-- From the halt of some moment on, all items that fail were engaged then. -/
def State.FailsWithin [Retry.Retryable Error] (settings : Settings)
    (state : State Value Error) : Prop :=
  ∃ moment acts, AfterHalt moment acts state ∧ moment.engaged.length ≤ settings.slots ∧
    ∀ (index : Nat) (cell : Cell Value Error), state.cells[index]? = some cell →
      cell.hasFailed = true → index ∈ moment.engaged

variable [Retry.Retryable Error] {settings : Settings} {raised : Bool}
  {state next : State Value Error} {act : Act Value Error}

/-- An act after the halt lets engaged items fail alone. -/
theorem State.FailsWithin.step
    (within : state.FailsWithin settings)
    (moves : Moves settings raised state act next) :
    next.FailsWithin settings := by
  obtain ⟨moment, acts, after, bounded, failed⟩ := within
  refine ⟨moment, acts ++ [act], after.step moves, bounded, ?_⟩
  intro index later present fails
  obtain ⟨cell, found, cellMoves⟩ := moves.cell_before present
  rcases cellMoves.hasFailed_before fails with earlier | ⟨_, holds⟩
  · exact failed index cell found earlier
  · exact after.holders index cell found holds

/-- The failure that raises the halt is the only one at that moment. -/
theorem State.failsWithin_of_halt
    (directs : Directs settings state)
    (running : state.halted = false)
    (bounded : next.engaged.length ≤ settings.slots)
    (moves : Moves settings raised state act next)
    (halted : next.halted = true) :
    next.FailsWithin settings := by
  refine ⟨next, [], .initial halted, bounded, ?_⟩
  intro index later present fails
  obtain ⟨cell, found, cellMoves⟩ := moves.cell_before present
  rcases cellMoves.hasFailed_before fails with earlier | ⟨rfl, _⟩
  · rcases moves.halted_eq_true_iff.mp halted with before | ⟨failFast, _⟩
    · rw [running] at before
      cases before
    · rw [directs.halted.mpr ⟨failFast, index, cell, found, earlier⟩] at running
      cases running
  · cases cellMoves with
    | keep _ other => exact absurd rfl other
    | announce ending => exact mem_engaged_iff.mpr (Or.inl ⟨_, present, rfl⟩)

namespace World

variable {generators : List Random.Generator} {happenings : List (Happening Value Error)}
  {final : World Value Error}

/-- In every run all items that fail were engaged at the halt, if there is
one. -/
theorem failsWithin_of_run
    (begins : State.begin? settings generators = some state)
    (runs : World.run settings ⟨raised, state⟩ happenings = some final)
    (halted : final.state.halted = true) :
    final.state.FailsWithin settings := by
  obtain rfl := State.eq_initial_of_begin?_eq_some begins
  have together := run_state_induction
    (motive := fun _ current =>
      Directs settings current ∧ current.free + current.heldSlots = settings.slots ∧
        (current.halted = true → current.FailsWithin settings))
    ⟨.initial settings generators, State.free_add_heldSlots_initial generators, by
      simp [State.initial]⟩
    (by
      rintro past raised current act next ⟨directs, balance, within⟩ moves
      have balanceAfter := moves.free_add_heldSlots.trans balance
      refine ⟨directs.step moves, balanceAfter, ?_⟩
      intro halted
      cases before : current.halted with
      | true => exact (within before).step moves
      | false =>
          have bounded := next.length_engaged_le_heldSlots
          exact State.failsWithin_of_halt directs before (by omega) moves halted)
    runs
  exact together.2.2 halted

/-- No more items of a fail-fast batch fail than there are slots. -/
theorem failed_le_slots_of_run
    (failFast : settings.mode = .failFast)
    (begins : State.begin? settings generators = some state)
    (runs : World.run settings ⟨raised, state⟩ happenings = some final) :
    (final.state.report settings).failed ≤ settings.slots := by
  have gathers := gathers_of_run begins runs
  have hasFailed : ∀ {index : Nat}, (final.state.report settings).hasFailed index = true →
      ∃ cell, final.state.cells[index]? = some cell ∧ cell.hasFailed = true := by
    intro index reported
    obtain ⟨order, ending, gathered, fails⟩ := (gathers.hasFailed_iff settings).mp reported
    exact ⟨_, gathered.settled, fails⟩
  rw [Report.failed_eq_length_filter]
  cases halted : final.state.halted with
  | true =>
      obtain ⟨moment, _, _, bounded, engaged⟩ := failsWithin_of_run begins runs halted
      refine Nat.le_trans ((List.nodup_range.filter _).subperm ?_).length_le bounded
      intro index member
      obtain ⟨cell, found, fails⟩ := hasFailed (List.mem_filter.mp member).2
      exact engaged index cell found fails
  | false =>
      have none : ∀ index ∈ List.range (final.state.report settings).outcomes.length,
          ¬(final.state.report settings).hasFailed index = true := by
        intro index _ reported
        obtain ⟨cell, found, fails⟩ := hasFailed reported
        rw [(directs_of_run begins runs).halted.mpr ⟨failFast, index, cell, found, fails⟩] at halted
        cases halted
      rw [List.filter_eq_nil_iff.mpr none]
      exact Nat.zero_le _

end World

/-- The failure of a complete batch counts the failed items of its report
exactly if the batch was not stopped by one of several failures.  A fail-soft
one always counts them all; a fail-fast one counts the first failure alone, and
leaves out fewer items than there are slots. -/
theorem failedCount_eq_failed_iff
    {generators : List Random.Generator}
    {happenings : List (Happening Value Error)}
    {final : World Value Error}
    {failure : Failure}
    (begins : State.begin? settings generators = some state)
    (runs : World.run settings ⟨raised, state⟩ happenings = some final)
    (complete : final.state.isComplete = true)
    (isError : (final.state.report settings).result = .error failure) :
    (failure.failedCount = (final.state.report settings).failed ↔
        (settings.mode = .failFast → (final.state.report settings).failed ≤ 1)) ∧
      (settings.mode = .failSoft →
        failure.failedCount = (final.state.report settings).failed) ∧
      (settings.mode = .failFast →
        failure.failedCount = min 1 (final.state.report settings).failed ∧
          (final.state.report settings).failed ≤ max 1 settings.concurrency) := by
  cases mode : settings.mode with
  | failSoft =>
      have counted := Report.failedCount_of_failSoft mode isError
      simp [counted]
  | failFast =>
      have sound := World.sound_of_isComplete begins runs complete
      have counted := sound.failedCount_of_failFast mode isError
      have bounded := World.failed_le_slots_of_run mode begins runs
      refine ⟨?_, by simp, fun _ => ⟨counted, bounded⟩⟩
      rw [counted]
      simp only [forall_const]
      omega

/-- A fail-fast batch of three items that is stopped by its only failure. -/
theorem failedCount_eq_failed_of_one_failure :
    let settings : Settings :=
      { concurrency := 2, mode := .failFast, policy := ⟨1, .none⟩, classifier := .standard,
        heedsShutdown := false }
    let generators := List.replicate 3 (Random.Generator.ofSeed 7)
    let start : State Nat Api.Error := .initial settings generators
    let happenings : List (Happening Nat Api.Error) :=
      [.act .look, .act .take, .act .check, .act .launch, .act (.start 0), .act .look,
        .act .take, .act .check, .act .launch, .act (.start 1),
        .act (.finish 0 (.crashed "lost")), .act (.announce 0), .act (.rank 0),
        .act (.release 0), .act .look, .act .take, .act .check,
        .act (.finish 1 (.returned 5)), .act (.announce 1), .act (.rank 1),
        .act (.release 1), .act (.gather 1), .act (.gather 0)]
    State.begin? settings generators = some start ∧
      ∃ final, World.run settings ⟨false, start⟩ happenings = some final ∧
        final.state.isComplete = true ∧
        ∃ failure, (final.state.report settings).result = .error failure ∧
          failure.failedCount = (final.state.report settings).failed := by
  intro settings generators start happenings
  have begins : State.begin? settings generators = some start := rfl
  have runsOn : (World.run settings ⟨false, start⟩ happenings).any
      (fun final => final.state.isComplete &&
        (match (final.state.report settings).result with
          | .error _ => true
          | .ok _ => false) &&
        decide ((final.state.report settings).failed = 1)) = true := by
    decide +kernel
  obtain ⟨final, runs, checked⟩ := (Option.any_eq_true _ _).mp runsOn
  simp only [Bool.and_eq_true, decide_eq_true_eq] at checked
  obtain ⟨⟨complete, isError⟩, one⟩ := checked
  cases shown : (final.state.report settings).result with
  | ok values => simp [shown] at isError
  | error failure =>
      have agrees := (failedCount_eq_failed_iff begins runs complete shown).1
      exact ⟨begins, final, runs, complete, failure, shown,
        agrees.mpr fun _ => Nat.le_of_eq one⟩

/-- Two items that fail side by side in a fail-fast batch: its report shows two
failures and its result speaks of one. -/
theorem failedCount_leaves_out_a_failure :
    let settings : Settings :=
      { concurrency := 2, mode := .failFast, policy := ⟨1, .none⟩, classifier := .standard,
        heedsShutdown := false }
    let script : Nat → Nat → ScriptedAttempt Nat Api.Error :=
      fun _ _ => ⟨false, 5, false, .failed (.rejected 404 "x")⟩
    let generators := List.replicate 2 (Random.Generator.ofSeed 7)
    ∃ run, TimedRun.ofScript? settings false script generators = some run ∧
      run.world.state.isComplete = true ∧
      ∃ failure, (run.world.state.report settings).result = .error failure ∧
        (run.world.state.report settings).failed = 2 ∧ failure.failedCount = 1 := by
  intro settings script generators
  have ends : (TimedRun.ofScript? settings false script generators).any
      (fun run => run.world.state.isComplete &&
        (match (run.world.state.report settings).result with
          | .error failure => decide (failure.failedCount = 1)
          | .ok _ => false) &&
        decide ((run.world.state.report settings).failed = 2)) = true := by
    decide +kernel
  obtain ⟨run, ran, checked⟩ := (Option.any_eq_true _ _).mp ends
  simp only [Bool.and_eq_true, decide_eq_true_eq] at checked
  obtain ⟨⟨complete, isError⟩, two⟩ := checked
  cases shown : (run.world.state.report settings).result with
  | ok values => simp [shown] at isError
  | error failure => exact ⟨run, ran, complete, failure, shown, two, by simpa [shown] using isError⟩

end Batch
end TenantLoad
