import TenantLoad.Proofs.Batch.Attempts
import TenantLoad.Proofs.Tenant.Account

/-!
# The calls of a batch

The attempts of a batch are calls, and their ends are recorded.  `Conduct`
relates the effects that this leaves to the run of the batch: every item has a
dialogue with the results of its own attempts, and as many calls are under way
as attempts are.
-/

namespace TenantLoad
namespace Tenant

/-- The acts of a batch of calls. -/
abbrev CallAct := Batch.Act Api.Reply Api.Error

section Effects

variable {task : Task} {errand : Nat → Option Errand} {batch : Calls} {act : CallAct}
  {index : Nat}

/-- An act that neither begins nor ends an attempt does not show. -/
theorem itemEffects_of_isQuiet
    (quiet : act.isQuiet = true)
    (duration : Metrics.Millis) :
    itemEffects task errand duration batch act = [] := by
  cases act <;> first | rfl | cases quiet

/-- Effects that are all made for one item. -/
def MadeFor (task : Task) (index : Nat) (effects : List Effect) : Prop :=
  ∀ effect ∈ effects, ∃ attempt, effect.origin? = some ⟨task, some index, attempt⟩

/-- What is made for one item does not show in another one's thread. -/
theorem MadeFor.threadOf_of_ne
    {other : Nat}
    {effects : List Effect}
    (made : MadeFor task index effects)
    (different : index ≠ other) :
    threadOf task (some other) effects = [] := by
  refine threadOf_eq_nil ?_
  intro effect member
  rw [Bool.eq_false_iff]
  intro isFor
  obtain ⟨origin, isMade, _, item⟩ := Effect.isFor_iff.mp isFor
  obtain ⟨attempt, madeHere⟩ := made effect member
  rw [madeHere, Option.some.injEq] at isMade
  subst isMade
  exact different (Option.some.inj item)

theorem MadeFor.threadOf_eq
    {effects : List Effect}
    (made : MadeFor task index effects) :
    threadOf task (some index) effects = effects := by
  refine threadOf_eq_self ?_
  intro effect member
  obtain ⟨attempt, madeHere⟩ := made effect member
  exact Effect.isFor_iff.mpr ⟨_, madeHere, rfl, rfl⟩

end Effects

/-- A batch of a step has got where it stands by a run of the given acts, and
the effects of the step are what these show. -/
structure Conduct (settings : Batch.Settings) (generators : List Random.Generator) (task : Task)
    (errand : Nat → Option Errand) (acts : List CallAct) (part : List Effect) (raised : Bool)
    (batch : Calls) : Prop where
  ran : ∃ before start happenings, Batch.State.begin? settings generators = some start ∧
    Batch.World.run settings ⟨before, start⟩ happenings = some ⟨raised, batch⟩ ∧
      Batch.actsOf happenings = acts
  made : ∀ effect ∈ part, ∃ index attempt,
    index < generators.length ∧ effect.origin? = some ⟨task, some index, attempt⟩
  threads : ∀ (index : Nat) (cell : Batch.Cell Api.Reply Api.Error),
    batch.cells[index]? = some cell →
      ∃ purpose, errand index = some purpose ∧
        Dialogue task (some index) purpose (threadOf task (some index) part)
          (Batch.results index acts) cell.isAttempting
  paced : Paced settings.slots batch.attempting part

namespace Conduct

variable {settings : Batch.Settings} {generators : List Random.Generator} {task : Task}
  {errand : Nat → Option Errand} {acts : List CallAct} {part : List Effect} {raised : Bool}
  {batch next : Calls} {act : CallAct} {index : Nat}

/-- A batch that has just begun. -/
theorem begin
    (raised : Bool)
    (task : Task)
    (begins : Batch.State.begin? settings generators = some batch)
    (errands : ∀ index < generators.length, ∃ purpose, errand index = some purpose) :
    Conduct settings generators task errand [] [] raised batch where
  ran := ⟨raised, batch, [], begins, rfl, rfl⟩
  made := by simp
  threads := by
    intro index cell found
    obtain rfl := Batch.State.eq_initial_of_begin?_eq_some begins
    obtain ⟨generator, rfl⟩ := Batch.State.eq_waiting_of_initial found
    have inside : index < generators.length := by
      simpa [Batch.State.initial] using (Array.getElem?_eq_some_iff.mp found).1
    obtain ⟨purpose, given⟩ := errands index inside
    exact ⟨purpose, given, .silent⟩
  paced := by
    obtain rfl := Batch.State.eq_initial_of_begin?_eq_some begins
    rw [Batch.State.attempting_initial]
    exact .nil _

/-- The run goes on by one act. -/
theorem ran_act
    (conduct : Conduct settings generators task errand acts part raised batch)
    (enabled : batch.act settings raised act = some next) :
    ∃ before start happenings, Batch.State.begin? settings generators = some start ∧
      Batch.World.run settings ⟨before, start⟩ happenings = some ⟨raised, next⟩ ∧
        Batch.actsOf happenings = acts ++ [act] := by
  obtain ⟨before, start, happenings, begins, runs, rfl⟩ := conduct.ran
  refine ⟨before, start, happenings ++ [.act act], begins, ?_, by simp⟩
  refine Batch.World.run_append_eq_some_iff.mpr ⟨_, runs, ?_⟩
  rw [Batch.World.run_singleton, Batch.World.step, enabled, Option.map_some]

/-- The signal leaves a batch where it stands. -/
theorem raise
    (conduct : Conduct settings generators task errand acts part raised batch) :
    Conduct settings generators task errand acts part true batch :=
  { conduct with
    ran := by
      obtain ⟨before, start, happenings, begins, runs, rfl⟩ := conduct.ran
      refine ⟨before, start, happenings ++ [.raise], begins, ?_, by simp⟩
      exact Batch.World.run_append_eq_some_iff.mpr ⟨_, runs, rfl⟩ }

theorem size_eq
    (conduct : Conduct settings generators task errand acts part raised batch) :
    batch.cells.size = generators.length := by
  obtain ⟨_, _, _, begins, runs, _⟩ := conduct.ran
  exact (Batch.World.traces_of_run begins runs).size

theorem attempting_le
    (conduct : Conduct settings generators task errand acts part raised batch) :
    batch.attempting ≤ settings.slots := by
  obtain ⟨_, _, _, begins, runs, _⟩ := conduct.ran
  exact Batch.World.attempting_le_slots_of_run begins runs

/-- The next attempt of an item, or the one under way, follows its results. -/
theorem attempt_eq
    {cell : Batch.Cell Api.Reply Api.Error}
    {attempt : Nat}
    {generator : Random.Generator}
    (conduct : Conduct settings generators task errand acts part raised batch)
    (found : batch.cells[index]? = some cell)
    (stands : cell.progress = .trying attempt generator) :
    attempt = (Batch.results index acts).length + 1 := by
  obtain ⟨_, _, _, begins, runs, rfl⟩ := conduct.ran
  exact Batch.World.attempt_eq_of_run begins runs found stands

/-! ## One act -/

theorem quiet
    (conduct : Conduct settings generators task errand acts part raised batch)
    (enabled : batch.act settings raised act = some next)
    (isQuiet : act.isQuiet = true) :
    Conduct settings generators task errand (acts ++ [act]) part raised next where
  ran := conduct.ran_act enabled
  made := conduct.made
  threads := by
    intro index after present
    have moves := Batch.Moves.of_act enabled
    obtain ⟨before, found, cellMoves⟩ := moves.cell_before present
    obtain ⟨purpose, given, dialogue⟩ := conduct.threads index before found
    refine ⟨purpose, given, ?_⟩
    rw [Batch.results_concat, Batch.Act.result?_of_isQuiet isQuiet, Option.toList_none,
      List.append_nil, cellMoves.isAttempting_of_isQuiet isQuiet]
    exact dialogue
  paced := by
    rw [(Batch.Moves.of_act enabled).attempting_of_isQuiet isQuiet]
    exact conduct.paced

/-- An act that moves one item shows in its thread alone. -/
theorem step
    {effects : List Effect}
    {before after : Batch.Cell Api.Reply Api.Error}
    {purpose : Errand}
    (conduct : Conduct settings generators task errand acts part raised batch)
    (enabled : batch.act settings raised act = some (batch.setCell index after))
    (found : batch.cells[index]? = some before)
    (others : ∀ other, index ≠ other → act.result? other = none)
    (made : MadeFor task index effects)
    (given : errand index = some purpose)
    (dialogue :
      Dialogue task (some index) purpose (threadOf task (some index) part ++ effects)
        (Batch.results index acts ++ (act.result? index).toList) after.isAttempting)
    (paced : Paced settings.slots (batch.setCell index after).attempting (part ++ effects)) :
    Conduct settings generators task errand (acts ++ [act]) (part ++ effects) raised
      (batch.setCell index after) where
  ran := conduct.ran_act enabled
  made := by
    intro effect member
    rcases List.mem_append.mp member with earlier | now
    · exact conduct.made effect earlier
    · obtain ⟨attempt, madeHere⟩ := made effect now
      refine ⟨index, attempt, ?_, madeHere⟩
      rw [← conduct.size_eq]
      exact (Array.getElem?_eq_some_iff.mp found).1
  threads := by
    intro place cell present
    rw [threadOf_append, Batch.results_concat]
    by_cases here : index = place
    · subst here
      rw [Batch.State.setCell_cells, Array.getElem?_setIfInBounds_self_of_lt
        (Array.getElem?_eq_some_iff.mp found).1, Option.some.injEq] at present
      subst present
      rw [made.threadOf_eq]
      exact ⟨purpose, given, dialogue⟩
    · rw [Batch.State.setCell_cells, Array.getElem?_setIfInBounds_ne here] at present
      rw [made.threadOf_of_ne here, List.append_nil, others place here, Option.toList_none,
        List.append_nil]
      exact conduct.threads place cell present
  paced := paced

/-- The dialogue of an item with a given errand. -/
theorem dialogue
    {cell : Batch.Cell Api.Reply Api.Error}
    {purpose : Errand}
    (conduct : Conduct settings generators task errand acts part raised batch)
    (found : batch.cells[index]? = some cell)
    (given : errand index = some purpose) :
    Dialogue task (some index) purpose (threadOf task (some index) part)
      (Batch.results index acts) cell.isAttempting := by
  obtain ⟨other, same, dialogue⟩ := conduct.threads index cell found
  rw [given, Option.some.injEq] at same
  rw [same]
  exact dialogue

/-- An item begins an attempt: a call begins. -/
theorem beginAttempt
    {attempt : Nat}
    {generator : Random.Generator}
    {before : Batch.Cell Api.Reply Api.Error}
    {purpose : Errand}
    (conduct : Conduct settings generators task errand acts part raised batch)
    (enabled : batch.act settings raised act =
      some (batch.setCell index (.attempting attempt generator)))
    (found : batch.cells[index]? = some before)
    (resting : before.isAttempting = false)
    (stands : before.progress = .trying attempt generator)
    (given : errand index = some purpose)
    (silent : ∀ place, act.result? place = none) :
    Conduct settings generators task errand (acts ++ [act])
      (part ++ [.call ⟨task, some index, attempt⟩ purpose.call]) raised
      (batch.setCell index (.attempting attempt generator)) := by
  have made : MadeFor task index [.call ⟨task, some index, attempt⟩ purpose.call] := by
    intro effect member
    rw [List.mem_singleton.mp member]
    exact ⟨attempt, rfl⟩
  have moved : (batch.setCell index (.attempting attempt generator)).attempting =
      batch.attempting + 1 := by
    have counted := Batch.State.attempting_setCell (.attempting attempt generator) found
    rw [resting] at counted
    exact counted
  refine conduct.step enabled found (fun place _ => silent place) made given ?_ ?_
  · rw [silent, Option.toList_none, List.append_nil, conduct.attempt_eq found stands]
    have dialogue := conduct.dialogue found given
    rw [resting] at dialogue
    exact dialogue.asks
  · have within : batch.attempting + 1 ≤ settings.slots := by
      obtain ⟨_, _, _, begins, runs, _⟩ := conduct.ran_act enabled
      rw [← moved]
      exact Batch.World.attempting_le_slots_of_run begins runs
    rw [moved]
    exact conduct.paced.call _ _ within

/-- The attempt of an item ends: its call ends and is recorded. -/
theorem finishAttempt
    {attempt : Nat}
    {generator : Random.Generator}
    {purpose : Errand}
    {result : Api.Attempt}
    (conduct : Conduct settings generators task errand acts part raised batch)
    (enabled : batch.act settings raised (.finish index result) =
      some (batch.setCell index (.afterAttempt settings attempt generator result)))
    (found : batch.cells[index]? = some (.attempting attempt generator))
    (given : errand index = some purpose)
    (duration : Metrics.Millis) :
    Conduct settings generators task errand (acts ++ [.finish index result])
      (part ++ returning ⟨task, some index, attempt⟩ purpose.call duration
        (purpose.note attempt) result) raised
      (batch.setCell index (.afterAttempt settings attempt generator result)) := by
  have made : MadeFor task index (returning ⟨task, some index, attempt⟩ purpose.call duration
      (purpose.note attempt) result) :=
    fun effect member => ⟨attempt, origin?_of_mem_returning member⟩
  have moved : (batch.setCell index (.afterAttempt settings attempt generator result)).attempting
      + 1 = batch.attempting := by
    have counted := Batch.State.attempting_setCell
      (.afterAttempt settings attempt generator result) found
    rw [Batch.Cell.isAttempting_afterAttempt] at counted
    exact counted
  have others : ∀ other, index ≠ other →
      Batch.Act.result? other (.finish index result) = none := by
    intro other different
    simp [Batch.Act.result?, different]
  refine conduct.step enabled found others made given ?_ ?_
  · rw [Batch.Cell.isAttempting_afterAttempt, conduct.attempt_eq found rfl]
    simpa [Batch.Act.result?] using (conduct.dialogue found given).hears duration result
  · have paced := conduct.paced
    rw [← moved] at paced
    refine paced.returning _ _ _ _ _ ?_
    have := conduct.attempting_le
    omega

/-- One act of the batch, with what shows of it. -/
theorem after_act
    (conduct : Conduct settings generators task errand acts part raised batch)
    (enabled : batch.act settings raised act = some next)
    (duration : Metrics.Millis) :
    Conduct settings generators task errand (acts ++ [act])
      (part ++ itemEffects task errand duration batch act) raised next := by
  have moves := Batch.Moves.of_act enabled
  cases moves with
  | start index generator found =>
      obtain ⟨purpose, given, _⟩ := conduct.threads index _ found
      have shown : itemEffects task errand duration batch (.start index) =
          [.call ⟨task, some index, 1⟩ purpose.call] := by
        simp [itemEffects, given]
      rw [shown]
      exact conduct.beginAttempt enabled found rfl rfl given (fun _ => rfl)
  | resume index attempt delay generator found =>
      obtain ⟨purpose, given, _⟩ := conduct.threads index _ found
      have shown : itemEffects task errand duration batch (.resume index) =
          [.call ⟨task, some index, attempt⟩ purpose.call] := by
        simp [itemEffects, given, found]
      rw [shown]
      exact conduct.beginAttempt enabled found rfl rfl given (fun _ => rfl)
  | finish index attempt generator result found =>
      obtain ⟨purpose, given, _⟩ := conduct.threads index _ found
      have shown : itemEffects task errand duration batch (.finish index result) =
          returning ⟨task, some index, attempt⟩ purpose.call duration (purpose.note attempt)
            result := by
        simp [itemEffects, given, found]
      rw [shown]
      exact conduct.finishAttempt enabled found given duration
  | refuse | seek | take | halt | clear | launch | announce | rank | release | gather =>
      rw [itemEffects_of_isQuiet rfl, List.append_nil]
      exact conduct.quiet enabled rfl

/-- Acts that neither begin nor end an attempt do not show. -/
theorem takes
    {quiet : List CallAct}
    (conduct : Conduct settings generators task errand acts part raised batch)
    (areQuiet : ∀ act ∈ quiet, act.isQuiet = true)
    (takes : Batch.State.Takes settings raised quiet batch next) :
    Conduct settings generators task errand (acts ++ quiet) part raised next := by
  induction quiet generalizing acts batch with
  | nil =>
      cases takes
      simpa using conduct
  | cons act quiet inductionHypothesis =>
      obtain ⟨between, enabled, rest⟩ := takes.of_cons
      have first := conduct.quiet enabled (areQuiet act (List.mem_cons_self ..))
      have others : ∀ act ∈ quiet, act.isQuiet = true :=
        fun other member => areQuiet other (List.mem_cons_of_mem _ member)
      simpa using inductionHypothesis first others rest

/-- Gathering all outcomes does not show. -/
theorem gatherAll
    (conduct : Conduct settings generators task errand acts part raised batch) :
    ∃ quiet, (∀ act ∈ quiet, act.isQuiet = true) ∧
      Conduct settings generators task errand (acts ++ quiet) part raised batch.gatherAll := by
  obtain ⟨quiet, areQuiet, takes⟩ := Batch.State.takes_gatherAll settings raised batch
  exact ⟨quiet, areQuiet, conduct.takes areQuiet takes⟩

end Conduct

/-! ## Complete batches -/

/-- The results of the attempts of an item. -/
def itemResults (acts : List CallAct) : Option Nat → List Api.Attempt
  | some index => Batch.results index acts
  | none => []

/-- Whether an item has a call under way. -/
def itemPending (batch : Calls) : Option Nat → Bool
  | some index => batch.cells[index]?.any Batch.Cell.isAttempting
  | none => false

section Complete

variable {settings : Settings} {batchSettings : Batch.Settings}
  {generators : List Random.Generator} {task : Task} {tables : List Table}
  {errand : Nat → Option Errand} {acts : List CallAct} {part : List Effect} {raised : Bool}
  {batch : Calls} {index : Nat}

/-- How the batch of a step is set up: with an item and an errand for each of
the step's items, whose attempts are noted by their numbers, and as many slots
as the stage allows calls. -/
structure Serves (settings : Settings) (tables : List Table) (batchSettings : Batch.Settings)
    (generators : List Random.Generator) (task : Task) (errand : Nat → Option Errand) :
    Prop where
  batched : task.isSingle = false
  items : task.items settings = (List.range generators.length).map some
  width : settings.width task.stage = batchSettings.slots
  errands : ∀ index < generators.length, ∃ purpose, errand index = some purpose
  fits : ∀ index purpose, errand index = some purpose →
    task.Fits tables (some index) purpose.call
  notes : ∀ index purpose, errand index = some purpose → ∀ attempt,
    (purpose.note attempt).lookup "attempt" = some (.natural attempt) ∧
      (purpose.note attempt).lookup "error" = none

/-- The account of a step whose batch is under way. -/
theorem Conduct.account
    (conduct : Conduct batchSettings generators task errand acts part raised batch)
    (serves : Serves settings tables batchSettings generators task errand) :
    Account settings tables task part (itemResults acts) (itemPending batch)
      batch.attempting where
  owned := by
    intro effect member
    obtain ⟨_, _, _, made⟩ := conduct.made effect member
    exact Effect.task_of_origin? made
  items := by
    intro effect member origin isMade
    obtain ⟨index, attempt, inside, made⟩ := conduct.made effect member
    rw [made, Option.some.injEq] at isMade
    subst isMade
    rw [serves.items]
    simpa using inside
  fits := by
    rintro ⟨origin, call⟩ asked
    obtain ⟨index, attempt, inside, made⟩ := conduct.made _ (mem_calls_iff.mp asked)
    obtain rfl : origin = ⟨task, some index, attempt⟩ := Option.some.inj made
    rw [← conduct.size_eq] at inside
    obtain ⟨purpose, given, dialogue⟩ := conduct.threads index _ (Array.getElem?_eq_getElem inside)
    have inThread : (⟨task, some index, attempt⟩, call) ∈
        calls (threadOf task (some index) part) := by
      rw [calls_threadOf, List.mem_filter]
      exact ⟨asked, decide_eq_true ⟨rfl, rfl⟩⟩
    rw [dialogue.calls_eq] at inThread
    obtain ⟨place, _, same⟩ := List.mem_map.mp inThread
    obtain rfl := (Prod.ext_iff.mp same).2
    exact serves.fits index purpose given
  threads := by
    intro item member
    rw [serves.items] at member
    obtain ⟨index, inside, rfl⟩ := List.mem_map.mp member
    have within : index < batch.cells.size := by
      rw [conduct.size_eq]
      exact List.mem_range.mp inside
    obtain ⟨purpose, _, dialogue⟩ := conduct.threads index _ (Array.getElem?_eq_getElem within)
    refine ⟨purpose, ?_⟩
    simpa [itemResults, itemPending, within] using dialogue
  paced := by
    rw [serves.width]
    exact conduct.paced
  single := by
    intro single
    rw [serves.batched] at single
    cases single

/-- The outcome of an item tells whether its attempts came to a success. -/
theorem succeeds_of_sums
    {generator : Random.Generator}
    {results : List Api.Attempt}
    {outcome : Batch.Outcome Api.Reply Api.Error}
    (sums : Batch.Sums batchSettings generator results outcome)
    (succeeded : outcome.isSuccess = true) :
    Succeeds results := by
  cases sums with
  | notStarted => cases succeeded
  | ended course =>
      rename_i ending
      cases ending with
      | succeeded reply attempts =>
          obtain ⟨earlier, last, rfl, failed, returned⟩ := course.returned_of_ended
          cases last with
          | returned value => exact ⟨earlier, value, rfl, failed⟩
          | failed | crashed => cases returned
      | failed | crashed => cases succeeded

theorem fails_of_sums
    {generator : Random.Generator}
    {results : List Api.Attempt}
    {outcome : Batch.Outcome Api.Reply Api.Error}
    (sums : Batch.Sums batchSettings generator results outcome)
    (unsuccessful : ¬outcome.isSuccess = true) :
    Fails results := by
  cases sums with
  | notStarted =>
      intro result member
      cases member
  | ended course =>
      rename_i ending
      obtain ⟨earlier, last, rfl, failed, returned⟩ := course.returned_of_ended
      have lastFailed : last.isReturned = false := by
        rw [returned]
        cases ending with
        | succeeded => exact absurd rfl unsuccessful
        | failed | crashed => rfl
      intro result member
      rcases List.mem_append.mp member with before | here
      · exact failed result before
      · rw [List.mem_singleton.mp here]
        exact lastFailed

variable (conduct : Conduct batchSettings generators task errand acts part raised batch)
  (serves : Serves settings tables batchSettings generators task errand)
  (complete : batch.isComplete = true)
include conduct serves complete

/-- The account of a step whose batch is complete. -/
theorem Conduct.account_of_isComplete :
    Account settings tables task part (itemResults acts) idle 0 := by
  obtain ⟨_, _, _, begins, runs, _⟩ := conduct.ran
  have account := conduct.account serves
  have none : batch.attempting = 0 :=
    Batch.World.attempting_eq_zero_of_isComplete begins runs complete
  refine { account with threads := ?_, paced := none ▸ account.paced, single := ?_ }
  · intro item member
    obtain ⟨purpose, dialogue⟩ := account.threads item member
    rw [serves.items] at member
    obtain ⟨index, inside, rfl⟩ := List.mem_map.mp member
    rw [List.mem_range, ← conduct.size_eq] at inside
    have found := Array.getElem?_eq_getElem inside
    have silent : itemPending batch (some index) = false := by
      rw [itemPending, found, Option.any_some]
      exact Batch.World.isAttempting_eq_false_of_isComplete begins runs complete found
    rw [silent] at dialogue
    exact ⟨purpose, dialogue⟩
  · intro single
    rw [serves.batched] at single
    cases single

/-- A batch with values completes its step. -/
theorem Conduct.completed
    {values : List Api.Reply}
    (isOk : (batch.report batchSettings).result = .ok values) :
    Completed settings tables task part where
  account := by
    refine ⟨_, conduct.account_of_isComplete serves complete, ?_⟩
    intro item member
    rw [serves.items] at member
    obtain ⟨index, inside, rfl⟩ := List.mem_map.mp member
    obtain ⟨_, _, _, begins, runs, rfl⟩ := conduct.ran
    have sound := Batch.World.sound_of_isComplete begins runs complete
    have within : index < (batch.report batchSettings).outcomes.length := by
      rw [Batch.World.outcomes_of_isComplete begins runs complete, List.length_mapIdx]
      exact List.mem_range.mp inside
    have succeeded := sound.settles.ok_iff.mp ⟨values, isOk⟩ _ (List.getElem_mem within)
    obtain ⟨_, _, sums⟩ := Batch.World.sums_of_isComplete begins runs complete
      (List.getElem?_eq_getElem within)
    exact succeeds_of_sums sums succeeded
  connected := by
    rintro rfl
    cases serves.batched

/-- A batch without values breaks its step. -/
theorem Conduct.broken
    {failure : Batch.Failure}
    (isError : (batch.report batchSettings).result = .error failure) :
    Broken settings tables task part := by
  refine ⟨_, conduct.account_of_isComplete serves complete, Or.inr ?_⟩
  obtain ⟨_, _, _, begins, runs, rfl⟩ := conduct.ran
  have sound := Batch.World.sound_of_isComplete begins runs complete
  have unsuccessful : ¬∀ outcome ∈ (batch.report batchSettings).outcomes,
      outcome.isSuccess = true := by
    intro succeeded
    obtain ⟨values, isOk⟩ := sound.settles.ok_iff.mpr succeeded
    have both : (Except.ok values : Except Batch.Failure _) = .error failure :=
      isOk.symm.trans isError
    cases both
  simp only [not_forall] at unsuccessful
  obtain ⟨outcome, member, isUnsuccessful⟩ := unsuccessful
  obtain ⟨index, shown⟩ := List.mem_iff_getElem?.mp member
  obtain ⟨generator, known, sums⟩ :=
    Batch.World.sums_of_isComplete begins runs complete shown
  refine ⟨some index, ?_, fails_of_sums sums isUnsuccessful⟩
  rw [serves.items]
  exact List.mem_map_of_mem (List.mem_range.mpr (List.getElem?_eq_some_iff.mp known).1)

end Complete

end Tenant
end TenantLoad
