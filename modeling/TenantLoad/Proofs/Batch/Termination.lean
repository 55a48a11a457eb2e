import TenantLoad.Proofs.Batch.Attempts
import TenantLoad.Proofs.Batch.Countdown

/-!
# Every batch ends

On any number of threads some act is possible until a batch is complete, every
act is one of finitely many, and no item makes more attempts than its budget.
On one thread, where attempts and delays take their time, a batch that is not
yet complete has a job that is ready or asleep; so every schedule comes to rest
with the batch complete.
-/

namespace TenantLoad
namespace Batch

variable {Value Error : Type} [Retry.Retryable Error] {settings : Settings} {raised : Bool}
  {state : State Value Error} {generators : List Random.Generator}

namespace TimedRun

variable {script : Nat → Nat → ScriptedAttempt Value Error} {run : TimedRun Value Error}

section Begun

variable (begins : State.begin? settings generators = some state)
  (attends : run.Attends settings ⟨raised, state⟩ none)
include begins attends

/-- A batch without a job to come is over. -/
theorem Attends.isOver_of_rests
    (rests : run.timeline.next? = none) :
    run.world.state.isOver = true := by
  have none : run.timeline.jobs = [] := Timeline.next?_eq_none_iff.mp rests
  have cannot : run.world.state.canDispatch settings run.world.raised = false := by
    rcases attends.dispatcher with finished | same | turn | ⟨_, cannot⟩
    · simp [State.canDispatch, finished]
    · cases same
    · have member : Job.dispatcher ∈ run.timeline.jobs := List.mem_append_left _ turn
      rw [none] at member
      cases member
    · exact cannot
  by_contra going
  rw [Bool.not_eq_true] at going
  obtain ⟨happenings, runs⟩ := attends.exists_run
  obtain ⟨index, cell, found, holds⟩ :=
    (attends.calm begins).exists_held begins runs cannot going
  rcases attends.items index cell found holds with same | member
  · cases same
  · rw [none] at member
    cases member

theorem Attends.isComplete_of_rests
    (rests : run.timeline.next? = none) :
    run.world.state.gatherAll.isComplete = true := by
  obtain ⟨happenings, runs⟩ := attends.exists_run
  exact (attends.calm begins).isComplete_of_isOver begins runs
    (attends.isOver_of_rests begins rests)

/-- Until a batch is complete, a job is ready at the next wake-up at the latest. -/
theorem Attends.exists_ready
    (incomplete : run.world.state.gatherAll.isComplete = false) :
    ∃ job rest, run.awaken.timeline.ready = job :: rest := by
  cases awake : run.timeline.awaken.ready with
  | cons job rest => exact ⟨job, rest, awake⟩
  | nil =>
      have rests : run.timeline.next? = none := by
        rw [Timeline.next?_eq attends.inOrder, awake]
      rw [attends.isComplete_of_rests begins rests] at incomplete
      cases incomplete

end Begun

/-- A batch on a timeline that can begin comes to its report. -/
theorem exists_ofScript?_isComplete
    (raised : Bool)
    (script : Nat → Nat → ScriptedAttempt Value Error)
    (generators : List Random.Generator)
    (fits : settings.concurrency ≤ slotLimit) :
    ∃ run, ofScript? settings raised script generators = some run ∧
      run.world.state.isComplete = true := by
  have begins : State.begin? settings generators =
      some (.initial settings generators : State Value Error) :=
    State.begin?_eq_some_initial fits generators
  have attends := Attends.of_beginning begins raised
  have few := turnsLeft_beginning_le begins raised
  have within : generators.length * (2 * settings.policy.budget + 2) + 3 ≤
      turnLimit settings generators.length := by
    have wider := Nat.mul_le_mul_left generators.length
      (Nat.add_le_add_left (by decide : 2 ≤ 4) (2 * settings.policy.budget))
    simp only [turnLimit]
    omega
  have rests := attends.rests_proceed begins script (Nat.le_trans few within)
  refine ⟨_, if_pos (Settings.canBegin_of_le fits), ?_⟩
  exact (attends.of_reachable begins
    (reaches_proceed begins attends _)).isComplete_of_rests begins rests

end TimedRun

/-- In a complete batch every dispatched item has settled with the outcome that
the report shows, and the others were not started. -/
theorem World.settled_or_unstarted_of_isComplete
    {happenings : List (Happening Value Error)}
    {final : World Value Error}
    {index : Nat}
    {cell : Cell Value Error}
    (begins : State.begin? settings generators = some state)
    (runs : World.run settings ⟨raised, state⟩ happenings = some final)
    (complete : final.state.isComplete = true)
    (found : final.state.cells[index]? = some cell) :
    if index < final.state.dispatched then
      ∃ order ending, cell = .settled order ending ∧
        (final.state.report settings).outcomes[index]? = some (.ofEnding ending)
    else (final.state.report settings).outcomes[index]? = some .notStarted := by
  rw [State.report, Array.getElem?_toList]
  rcases World.item_of_isComplete begins runs complete found with
    ⟨waiting, _, missing⟩ | ⟨started, order, ending, gathered⟩
  · rw [if_neg (Nat.not_lt.mpr waiting), missing]
  · rw [if_pos started]
    exact ⟨order, ending, Option.some.inj (found.symm.trans gathered.settled), gathered.arrived⟩

/-- A batch that asks for no more slots than there can be begins and ends.  On any
number of threads its acts are limited, no item begins more attempts than it may,
some act is possible until the batch is complete, whatever the attempts end with,
and then every dispatched item has settled and the report shows its outcome.  On
one thread, whatever the attempts do and whenever the signal is raised, the steps
of every schedule are limited, some job can run until nothing is left to do but to
gather, and the batch on a timeline comes to its report. -/
theorem every_batch_ends
    (raised : Bool)
    (generators : List Random.Generator)
    (fits : settings.concurrency ≤ slotLimit) :
    ∃ state : State Value Error, State.begin? settings generators = some state ∧
      (∀ happenings final, World.run settings ⟨raised, state⟩ happenings = some final →
        (actsOf happenings).length ≤ State.eventLimit settings generators.length ∧
        (∀ (index : Nat) (cell : Cell Value Error), final.state.cells[index]? = some cell →
          (actsOf happenings).countP (Act.begins index) ≤
            max 1 settings.policy.maxAttempts.toNat) ∧
        (final.state.isComplete = false →
          ∀ answer : Nat → Nat → Retry.Attempt Value Error, ∃ act,
            (final.state.act settings final.raised act).isSome = true ∧
              ∀ index result, act = .finish index result →
                result = answer index ((results index (actsOf happenings)).length + 1)) ∧
        (final.state.isComplete = true →
          (final.state.report settings).outcomes.length = generators.length ∧
            ∀ (index : Nat) (cell : Cell Value Error), final.state.cells[index]? = some cell →
              if index < final.state.dispatched then
                ∃ order ending, cell = .settled order ending ∧
                  (final.state.report settings).outcomes[index]? = some (.ofEnding ending)
              else (final.state.report settings).outcomes[index]? = some .notStarted)) ∧
      ∀ script : Nat → Nat → ScriptedAttempt Value Error,
        (∀ later, (TimedRun.beginning raised state :: later).IsChain
            (TimedRun.Advances settings script) →
          later.length ≤ 2 * (generators.length * (2 * settings.policy.budget + 2) + 3)) ∧
        (∀ run, Relation.ReflTransGen (TimedRun.Advances settings script)
            (.beginning raised state) run →
          run.world.state.gatherAll.isComplete = false →
            ∃ job rest, run.awaken.timeline.ready = job :: rest) ∧
        ∃ run, TimedRun.ofScript? settings raised script generators = some run ∧
          run.world.state.isComplete = true := by
  have begins : State.begin? settings generators =
      some (.initial settings generators : State Value Error) :=
    State.begin?_eq_some_initial fits generators
  refine ⟨.initial settings generators, begins, ?_, ?_⟩
  · intro happenings final runs
    refine ⟨World.length_actsOf_le_of_run begins runs, ?_, ?_, ?_⟩
    · exact fun index cell present => World.countP_begins_le_budget begins runs present
    · exact fun incomplete answer =>
        World.exists_act_of_not_isComplete answer begins runs incomplete
    · intro complete
      refine ⟨?_, fun index cell => World.settled_or_unstarted_of_isComplete begins runs complete⟩
      rw [World.outcomes_of_isComplete begins runs complete, List.length_mapIdx]
  · intro script
    have attends := TimedRun.Attends.of_beginning begins raised
    refine ⟨?_, ?_, ?_⟩
    · intro later advances
      have few := TimedRun.turnsLeft_beginning_le begins raised
      have ready : (TimedRun.beginning raised (.initial settings generators :
          State Value Error)).timeline.ready.isEmpty.toNat = 0 := rfl
      have limited := attends.length_le_stepsLeft begins advances
      simp only [TimedRun.stepsLeft, ready] at limited
      omega
    · intro run reaches incomplete
      exact (attends.of_reachable begins reaches).exists_ready begins incomplete
    · exact TimedRun.exists_ofScript?_isComplete raised script generators fits

/-- The first of three items raises the signal while the dispatcher waits for the
only slot, and then crashes: the batch ends and is cancelled. -/
theorem every_batch_ends_while_the_dispatcher_waits :
    let settings : Settings :=
      { concurrency := 1, mode := .failSoft, policy := ⟨2, .none⟩, classifier := .standard,
        heedsShutdown := true }
    let script : Nat → Nat → ScriptedAttempt Nat Api.Error :=
      fun _ _ => ⟨true, 5, false, .crashed "lost"⟩
    let generators := List.replicate 3 (Random.Generator.ofSeed 7)
    settings.concurrency ≤ slotLimit ∧
      ∃ run, TimedRun.ofScript? settings false script generators = some run ∧
        run.world.state.isComplete = true ∧
        (run.world.state.report settings).failed = 1 ∧
        (run.world.state.report settings).notStarted = 2 ∧
        (run.world.state.report settings).cancelled = true := by
  intro settings script generators
  have fits : settings.concurrency ≤ slotLimit := by decide
  obtain ⟨_, _, _, timed⟩ := @every_batch_ends Nat Api.Error _ settings false generators fits
  obtain ⟨_, _, run, ran, complete⟩ := timed script
  have ends : (TimedRun.ofScript? settings false script generators).any
      (fun run => decide ((run.world.state.report settings).failed = 1) &&
        decide ((run.world.state.report settings).notStarted = 2) &&
        (run.world.state.report settings).cancelled) = true := by
    decide +kernel
  rw [ran, Option.any_some] at ends
  simp only [Bool.and_eq_true, decide_eq_true_eq] at ends
  obtain ⟨⟨failed, unstarted⟩, cancelled⟩ := ends
  exact ⟨fits, run, ran, complete, failed, unstarted, cancelled⟩

/-- A batch of one item that asks for one slot more than there can be crashes: it
reaches no state and comes to no report. -/
theorem no_report_beyond_the_slot_limit :
    let settings : Settings :=
      { concurrency := 0x2000000000000000, mode := .failSoft, policy := .standard,
        classifier := .standard, heedsShutdown := true }
    let script : Nat → Nat → ScriptedAttempt Unit Api.Error :=
      fun _ _ => ⟨false, 0, false, .returned ()⟩
    let generators := (itemGenerators 1 (Random.Generator.ofSeed 7)).1
    State.begin? settings generators = (none : Option (State Unit Api.Error)) ∧
      (TimedRun.ofScript? settings false script generators).isNone = true := by
  intro settings script generators
  have crashes : ¬settings.canBegin = true := by decide
  exact ⟨if_neg crashes, by rw [TimedRun.ofScript?, if_neg crashes]; rfl⟩

end Batch
end TenantLoad
