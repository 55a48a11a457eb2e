import TenantLoad.Shutdown
import Mathlib.Data.List.Induction

/-!
# Interrupts are watched

A watcher is decided by its first failed wait, or by the first interrupt that
finds the signal raised.  Since its own first interrupt raises the signal, it
never takes more than two.
-/

namespace TenantLoad
namespace Shutdown

/-! ## What decides a watcher -/

/-- An event decides a watcher, after others that did not. -/
inductive Decides (raised : Bool) (before : List Event) : Event → Outcome → Prop where
  | failure : Decides raised before .failure .unavailable
  /-- The signal was raised at first, by something else or by the watcher. -/
  | interrupt
      (found : raised = true ∨ .raise ∈ before ∨ .interrupt ∈ before) :
      Decides raised before .interrupt .forced

/-- None of some events decides a watcher. -/
def Undecided (raised : Bool) (events : List Event) : Prop :=
  ∀ before event after, events = before ++ event :: after →
    ∀ outcome, ¬ Decides raised before event outcome

section Undecided

variable {raised : Bool} {events before after : List Event} {event : Event} {outcome : Outcome}

theorem undecided_nil (raised : Bool) : Undecided raised [] := by
  intro before event after split
  exact absurd split (by simp)

/-- The last of some events is a place to split them at, and every other place splits those
before it. -/
theorem concat_eq_append_cons_iff
    {other : Event} :
    events ++ [event] = before ++ other :: after ↔
      (∃ more, events = before ++ other :: more ∧ after = more ++ [event]) ∨
        events = before ∧ event = other ∧ after = [] := by
  constructor
  · intro split
    rcases List.eq_nil_or_concat after with rfl | ⟨more, last, rfl⟩
    · obtain ⟨rfl, same⟩ := List.append_inj' split rfl
      cases same
      exact Or.inr ⟨rfl, rfl, rfl⟩
    · rw [List.concat_eq_append, ← List.cons_append, ← List.append_assoc] at split
      obtain ⟨rfl, same⟩ := List.append_inj' split rfl
      cases same
      exact Or.inl ⟨more, rfl, List.concat_eq_append ..⟩
  · rintro (⟨more, rfl, rfl⟩ | ⟨rfl, rfl, rfl⟩)
    · simp
    · rfl

theorem undecided_concat_iff :
    Undecided raised (events ++ [event]) ↔
      Undecided raised events ∧ ∀ outcome, ¬ Decides raised events event outcome := by
  constructor
  · intro undecided
    constructor
    · rintro before earlier after rfl
      exact undecided before earlier (after ++ [event]) (by simp)
    · exact undecided events event [] rfl
  · rintro ⟨undecided, last⟩ before other after split
    rcases concat_eq_append_cons_iff.mp split with ⟨more, earlier, -⟩ | ⟨rfl, rfl, -⟩
    · exact undecided before other more earlier
    · exact last

/-- Events decide nothing, or there is a first one that decides. -/
theorem undecided_or_exists_decides (raised : Bool) (events : List Event) :
    Undecided raised events ∨
      ∃ before event after outcome, events = before ++ event :: after ∧
        Undecided raised before ∧ Decides raised before event outcome := by
  induction events using List.reverseRecOn with
  | nil => exact Or.inl (undecided_nil raised)
  | append_singleton events event inductionHypothesis =>
      rcases inductionHypothesis with undecided | ⟨before, first, after, outcome, rfl, early⟩
      · by_cases decided : ∃ outcome, Decides raised events event outcome
        · obtain ⟨outcome, decides⟩ := decided
          exact Or.inr ⟨events, event, [], outcome, rfl, undecided, decides⟩
        · exact Or.inl (undecided_concat_iff.mpr ⟨undecided, not_exists.mp decided⟩)
      · exact Or.inr ⟨before, first, after ++ [event], outcome, by simp, early⟩

end Undecided

/-! ## Runs of a watcher -/

namespace Watcher

variable {raised : Bool} {events before : List Event} {event : Event} {outcome : Outcome}

theorem run_append (watcher : Watcher) (events more : List Event) :
    watcher.run (events ++ more) = (watcher.run events).run more :=
  List.foldl_append ..

/-- A watcher that has stopped takes nothing more. -/
theorem run_of_stopped
    {watcher : Watcher}
    (stopped : watcher.outcome = some outcome)
    (events : List Event) :
    watcher.run events =
      { watcher with raised := watcher.raised || decide (.raise ∈ events) } := by
  induction events generalizing watcher with
  | nil => simp [run]
  | cons event events inductionHypothesis =>
      change (watcher.step event).run events = _
      cases event with
      | raise =>
          have goesOn : (watcher.step .raise).outcome = some outcome := stopped
          rw [inductionHypothesis goesOn]
          simp [step]
      | interrupt | failure =>
          rw [show watcher.step _ = watcher by simp only [step, stopped],
            inductionHypothesis stopped]
          simp

/-- As long as nothing decides it a watcher takes every interrupt, and the first one raises the
signal. -/
theorem run_of_undecided
    (undecided : Undecided raised events) :
    run { raised } events =
      { raised := raised || decide (.raise ∈ events ∨ .interrupt ∈ events)
        taken := events.count .interrupt } := by
  induction events using List.reverseRecOn with
  | nil => simp [run]
  | append_singleton events event inductionHypothesis =>
      obtain ⟨undecidedBefore, last⟩ := undecided_concat_iff.mp undecided
      rw [run_append, inductionHypothesis undecidedBefore]
      cases event with
      | failure => exact absurd .failure (last _)
      | raise => simp [run, step]
      | interrupt =>
          have notFound : ¬ (raised = true ∨ .raise ∈ events ∨ .interrupt ∈ events) :=
            fun found => last _ (.interrupt found)
          obtain ⟨isLow, noRaise, noInterrupt⟩ := by simpa only [not_or] using notFound
          simp [run, step, isLow, noRaise, noInterrupt]

/-- A watcher that nothing has decided has taken one interrupt at most. -/
theorem count_le_one
    (undecided : Undecided raised events) :
    events.count .interrupt ≤ 1 := by
  induction events using List.reverseRecOn with
  | nil => exact Nat.zero_le _
  | append_singleton events event inductionHypothesis =>
      obtain ⟨undecidedBefore, last⟩ := undecided_concat_iff.mp undecided
      have fewBefore := inductionHypothesis undecidedBefore
      rw [List.count_append]
      cases event with
      | failure | raise => simpa using fewBefore
      | interrupt =>
          have isFirst : .interrupt ∉ events := fun found => last _ (.interrupt (.inr (.inr found)))
          simp [List.count_eq_zero.mpr isFirst]

/-- The first event that decides a watcher stops it. -/
theorem run_of_decides
    (undecided : Undecided raised before)
    (decides : Decides raised before event outcome)
    (after : List Event) :
    run { raised } (before ++ event :: after) =
      { raised := raised || decide (.raise ∈ before ∨ .interrupt ∈ before) ||
          decide (.raise ∈ after)
        taken := before.count .interrupt + 1
        outcome := some outcome } := by
  rw [run_append, run_of_undecided undecided]
  change (step _ event).run after = _
  cases decides with
  | failure => exact run_of_stopped rfl after
  | interrupt found =>
      have isHigh : (raised || decide (.raise ∈ before ∨ .interrupt ∈ before)) = true := by
        simpa using found
      simp only [step, isHigh, if_true]
      exact run_of_stopped rfl after

theorem outcome_run_eq_some_iff :
    (run { raised } events).outcome = some outcome ↔
      ∃ before event after, events = before ++ event :: after ∧ Undecided raised before ∧
        Decides raised before event outcome := by
  constructor
  · intro stopped
    rcases undecided_or_exists_decides raised events with undecided |
      ⟨before, event, after, found, rfl, undecided, decides⟩
    · rw [run_of_undecided undecided] at stopped
      cases stopped
    · rw [run_of_decides undecided decides] at stopped
      cases stopped
      exact ⟨before, event, after, rfl, undecided, decides⟩
  · rintro ⟨before, event, after, rfl, undecided, decides⟩
    rw [run_of_decides undecided decides]

theorem taken_run_le_two (raised : Bool) (events : List Event) :
    (run { raised } events).taken ≤ 2 := by
  rcases undecided_or_exists_decides raised events with undecided |
    ⟨before, event, after, outcome, rfl, undecided, decides⟩
  · rw [run_of_undecided undecided]
    exact Nat.le_trans (count_le_one undecided) (by decide)
  · rw [run_of_decides undecided decides]
    exact Nat.succ_le_succ (count_le_one undecided)

theorem outcome_run_eq_none_iff :
    (run { raised } events).outcome = none ↔ Undecided raised events := by
  rcases undecided_or_exists_decides raised events with undecided |
    ⟨before, event, after, outcome, rfl, undecided, decides⟩
  · simp only [run_of_undecided undecided, undecided]
  · rw [run_of_decides undecided decides]
    constructor
    · intro stopped
      cases stopped
    · intro none
      exact absurd decides (none before event after rfl outcome)

/-- An event raises the signal if it does so itself, or if it is an interrupt that is taken. -/
theorem raised_step_iff (watcher : Watcher) (event : Event) :
    (watcher.step event).raised = true ↔
      watcher.raised = true ∨ event = .raise ∨ event = .interrupt ∧ watcher.outcome = none := by
  cases event with
  | raise => simp [step]
  | interrupt | failure =>
      cases stopped : watcher.outcome <;> cases isHigh : watcher.raised <;>
        simp [step, stopped, isHigh]

/-- The signal is raised in the end if it was at first, if something else has raised it, or if an
interrupt came before the watcher was decided. -/
theorem raised_run_iff :
    (run { raised } events).raised = true ↔
      raised = true ∨ .raise ∈ events ∨
        ∃ before after, events = before ++ .interrupt :: after ∧ Undecided raised before := by
  induction events using List.reverseRecOn with
  | nil => simp [run]
  | append_singleton events event inductionHypothesis =>
      rw [run_append]
      change (step _ event).raised = true ↔ _
      rw [raised_step_iff, inductionHypothesis, outcome_run_eq_none_iff]
      simp only [concat_eq_append_cons_iff, List.mem_append, List.mem_singleton]
      constructor
      · rintro ((isHigh | raises | ⟨before, after, rfl, undecided⟩) | rfl | ⟨rfl, undecided⟩)
        · exact .inl isHigh
        · exact .inr (.inl (.inl raises))
        · exact .inr (.inr ⟨before, _, .inl ⟨after, rfl, rfl⟩, undecided⟩)
        · exact .inr (.inl (.inr rfl))
        · exact .inr (.inr ⟨events, [], .inr ⟨rfl, rfl, rfl⟩, undecided⟩)
      · rintro (isHigh | (raises | rfl) |
          ⟨before, after, ⟨more, rfl, -⟩ | ⟨rfl, rfl, -⟩, undecided⟩)
        · exact .inl (.inl isHigh)
        · exact .inl (.inr (.inl raises))
        · exact .inr (.inl rfl)
        · exact .inl (.inr (.inr ⟨before, more, rfl, undecided⟩))
        · exact .inr (.inr ⟨rfl, undecided⟩)

end Watcher

end Shutdown
end TenantLoad
