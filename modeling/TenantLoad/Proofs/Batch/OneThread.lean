import TenantLoad.Proofs.Batch.Events
import TenantLoad.Proofs.Batch.FailFast

/-!
# Batches on one thread come to their end

Once dispatch is over and every dispatched item has settled, one round of
gathering completes a batch.  Until then some event is possible, and the
events before a batch become fewer and fewer, so every schedule of one thread
that goes on as long as it can completes the batch.
-/

namespace TenantLoad
namespace Batch

variable {Value Error : Type} {settings : Settings} {raised : Bool}
  {state next : State Value Error} {index : Nat}

/-! ## Gathering -/

/-- Only the collector changes when an outcome is gathered. -/
theorem State.gather_eq_some
    (gathers : state.gather index = some next) :
    ∃ order ending,
      state.cells[index]? = some (.settled order ending) ∧ state.dispatchOver = true ∧
        state.collection.lacks index = true ∧
        next =
          { state with collection := state.collection.add index order (.ofEnding ending) } := by
  unfold gather at gathers
  split at gathers
  · rename_i order ending found
    split at gathers
    · rename_i ready
      rw [Bool.and_eq_true] at ready
      exact ⟨order, ending, found, ready.1, ready.2, (Option.some.inj gathers).symm⟩
    · cases gathers
  · cases gathers

/-- What the collector does not lack, or cannot gather, it does not gather
later either. -/
theorem State.gather_eq_none_of_gather
    {other : Nat}
    (gathers : state.gather other = some next)
    (settled : state.gather index = none ∨ index = other) :
    next.gather index = none := by
  obtain ⟨order, ending, found, finished, lacking, rfl⟩ := gather_eq_some gathers
  rw [Collection.lacks_eq_true_iff] at lacking
  unfold gather
  split
  · rename_i place itsEnding settledThere
    rw [if_neg]
    rw [Bool.and_eq_true, Collection.lacks_eq_true_iff]
    rintro ⟨_, missing⟩
    by_cases same : other = index
    · subst same
      have inside := (Array.getElem?_eq_some_iff.mp lacking).1
      rw [Collection.add, Array.getElem?_setIfInBounds_self_of_lt inside,
        Option.some.injEq] at missing
      exact Outcome.ofEnding_ne_notStarted _ missing
    · rw [Collection.add, Array.getElem?_setIfInBounds_ne same,
        ← Collection.lacks_eq_true_iff] at missing
      have possible : state.gather index ≠ none := by
        simp only [gather, show state.cells[index]? = _ from settledThere, finished, missing,
          Bool.and_self, if_true]
        exact Option.some_ne_none _
      exact settled.elim possible fun equal => same equal.symm
  · rfl

/-- Gathering what some items can give changes the collector alone and leaves
nothing of them to gather. -/
theorem State.foldl_gather
    (indices : List Nat)
    (state : State Value Error) :
    (∃ collection, indices.foldl (fun state index => (state.gather index).getD state) state =
        { state with collection }) ∧
      ∀ index, index ∈ indices ∨ state.gather index = none →
        (indices.foldl (fun state index => (state.gather index).getD state) state).gather index =
          none := by
  induction indices generalizing state with
  | nil => exact ⟨⟨state.collection, rfl⟩, fun index => by simp⟩
  | cons first indices inductionHypothesis =>
      rw [List.foldl_cons]
      cases gathers : state.gather first with
      | none =>
          obtain ⟨only, nothing⟩ := inductionHypothesis state
          refine ⟨only, ?_⟩
          rintro index (member | done)
          · rcases List.mem_cons.mp member with rfl | later
            · exact nothing index (Or.inr gathers)
            · exact nothing index (Or.inl later)
          · exact nothing index (Or.inr done)
      | some next =>
          obtain ⟨⟨collection, only⟩, nothing⟩ := inductionHypothesis next
          rw [Option.getD_some]
          refine ⟨⟨collection, ?_⟩, ?_⟩
          · obtain ⟨_, _, _, _, _, rfl⟩ := gather_eq_some gathers
            exact only
          · rintro index (member | done)
            · rcases List.mem_cons.mp member with rfl | later
              · exact nothing index (Or.inr (gather_eq_none_of_gather gathers (Or.inr rfl)))
              · exact nothing index (Or.inl later)
            · exact nothing index (Or.inr (gather_eq_none_of_gather gathers (Or.inl done)))

/-- Gathering everything changes the collector alone. -/
theorem State.exists_gatherAll_eq
    (state : State Value Error) :
    ∃ collection, state.gatherAll = { state with collection } :=
  (foldl_gather _ state).1

@[simp] theorem State.gatherAll_cells
    (state : State Value Error) :
    state.gatherAll.cells = state.cells := by
  obtain ⟨collection, only⟩ := state.exists_gatherAll_eq
  rw [only]

@[simp] theorem State.gatherAll_dispatcher
    (state : State Value Error) :
    state.gatherAll.dispatcher = state.dispatcher := by
  obtain ⟨collection, only⟩ := state.exists_gatherAll_eq
  rw [only]

@[simp] theorem State.gatherAll_dispatched
    (state : State Value Error) :
    state.gatherAll.dispatched = state.dispatched := by
  obtain ⟨collection, only⟩ := state.exists_gatherAll_eq
  rw [only]

@[simp] theorem State.gatherAll_dispatchOver
    (state : State Value Error) :
    state.gatherAll.dispatchOver = state.dispatchOver := by
  simp [dispatchOver, stop]

/-- After everything has been gathered nothing is left to gather. -/
theorem State.gather_gatherAll
    (state : State Value Error)
    (index : Nat) :
    state.gatherAll.gather index = none := by
  by_cases inside : index < state.cells.size
  · exact (foldl_gather _ state).2 index (Or.inl (List.mem_range.mpr inside))
  · have absent : state.gatherAll.cells[index]? = none := by simpa using inside
    simp only [gather, absent]

/-! ## Complete batches -/

variable [Retry.Retryable Error]

/-- The most events that a batch of so many items can hold. -/
def State.eventLimit (settings : Settings) (items : Nat) : Nat :=
  items * (2 * settings.policy.budget + 8) + 3

namespace World

variable {generators : List Random.Generator} {turns : List (Turn Value Error)}
  {world final : World Value Error}

theorem length_eventsOf_add_weight_le
    (takes : world.turns settings turns = some final) :
    (eventsOf turns).length + final.state.weight settings ≤ world.state.weight settings := by
  induction turns generalizing world with
  | nil =>
      cases takes
      exact Nat.le_of_eq (Nat.zero_add _)
  | cons turn turns inductionHypothesis =>
      cases turn with
      | raise =>
          have counted := inductionHypothesis takes
          exact counted
      | event event =>
          obtain ⟨next, steps, rest⟩ := turns_event_cons_eq_some_iff.mp takes
          have fewer := State.weight_lt_of_step steps
          have others := inductionHypothesis rest
          dsimp only at others
          rw [eventsOf_event, List.length_cons]
          omega

/-- No schedule of one thread goes on for ever. -/
theorem length_eventsOf_le_of_turns
    (begins : State.begin? settings generators = some state)
    (takes : World.turns settings ⟨raised, state⟩ turns = some final) :
    (eventsOf turns).length ≤ State.eventLimit settings generators.length := by
  have bounded := length_eventsOf_add_weight_le takes
  obtain rfl := State.eq_initial_of_begin?_eq_some begins
  rw [State.weight_initial] at bounded
  exact Nat.le_trans (Nat.le_add_right _ _) bounded

/-- On one thread, too, the results of the attempts lead to what is gathered. -/
theorem exists_run_gatherAll_of_turns
    (takes : world.turns settings turns = some final) :
    ∃ happenings,
      world.run settings happenings = some { final with state := final.state.gatherAll } ∧
        ∀ index, results index (actsOf happenings) = eventResults index (eventsOf turns) := by
  obtain ⟨happenings, runs, same⟩ := exists_run_of_turns takes
  obtain ⟨quiet, areQuiet, gathers⟩ :=
    State.takes_gatherAll settings final.raised final.state
  refine ⟨happenings ++ quiet.map Happening.act,
    run_append_eq_some_iff.mpr ⟨final, runs, gathers⟩, ?_⟩
  intro index
  rw [actsOf_append, actsOf_map_act, results_append, same, results_eq_nil_of_isQuiet areQuiet,
    List.append_nil]

/-- When dispatch is over and no item holds a slot, a round of gathering
completes the batch. -/
theorem isComplete_gatherAll
    {happenings : List (Happening Value Error)}
    (begins : State.begin? settings generators = some state)
    (runs : World.run settings ⟨raised, state⟩ happenings = some final)
    (unheld : final.state.Unheld)
    (finished : final.state.dispatchOver = true) :
    final.state.gatherAll.isComplete = true := by
  by_contra incomplete
  rw [Bool.not_eq_true] at incomplete
  obtain ⟨quiet, _, gathers⟩ := State.takes_gatherAll settings final.raised final.state
  have gathersAll := run_append_eq_some_iff.mpr ⟨final, runs, gathers⟩
  have unheldAfter : final.state.gatherAll.Unheld := by
    intro index cell present
    rw [State.gatherAll_cells] at present
    exact unheld index cell present
  -- What a round of gathering leaves lacking could still be gathered.
  obtain ⟨index, enabled⟩ := unheldAfter.isSome_gather settings final.raised
    (traces_of_run begins gathersAll) (directs_of_run begins gathersAll).within
    (by simpa using finished) incomplete
  simp [State.act, State.gather_gatherAll] at enabled

/-- No schedule of one thread gets stuck: unless a round of gathering
completes the batch, an event is possible. -/
theorem exists_event_of_not_isComplete
    (begins : State.begin? settings generators = some state)
    (takes : World.turns settings ⟨raised, state⟩ turns = some final)
    (incomplete : final.state.gatherAll.isComplete = false) :
    ∃ event, (final.state.step settings final.raised event).isSome = true := by
  have calm := calm_of_turns begins takes
  by_cases unheld : final.state.Unheld
  · obtain ⟨happenings, runs, _⟩ := exists_run_of_turns takes
    cases finished : final.state.dispatchOver with
    | true =>
        rw [isComplete_gatherAll begins runs unheld finished] at incomplete
        cases incomplete
    | false =>
        have balance := free_add_heldSlots_of_run begins runs
        have positive := unheld.free_pos balance (by rw [calm.idle finished]; rfl)
        exact ⟨.dispatch, calm.isSome_dispatch (traces_of_run begins runs).exists_waiting
          (by simp [State.canDispatch, finished, positive])⟩
  · simp only [State.Unheld, not_forall, Bool.not_eq_false] at unheld
    obtain ⟨index, cell, found, holds⟩ := unheld
    exact calm.exists_event found holds

/-- When a batch on one thread is complete, every dispatched item has run its
loop to the end that its outcome shows, and every other one was never
started. -/
theorem outcome_of_turns
    {generator : Random.Generator}
    (begins : State.begin? settings generators = some state)
    (takes : World.turns settings ⟨raised, state⟩ turns = some final)
    (complete : final.state.gatherAll.isComplete = true)
    (known : generators[index]? = some generator) :
    if index < final.state.dispatched then
      ∃ ending,
        Retry.replay settings.policy settings.classifier generator
            (eventResults index (eventsOf turns)) =
          .ended ending ∧
        (final.state.gatherAll.report settings).outcomes[index]? = some (.ofEnding ending)
    else
      eventResults index (eventsOf turns) = [] ∧
        (final.state.gatherAll.report settings).outcomes[index]? = some .notStarted := by
  obtain ⟨happenings, runs, same⟩ := exists_run_gatherAll_of_turns takes
  have traces := traces_of_run begins runs
  have launched : final.state.dispatched = (actsOf happenings).countP Act.isLaunch := by
    rw [← traces.dispatched, State.gatherAll_dispatched]
  rw [← same index]
  split
  · rename_i started
    rw [launched] at started
    obtain ⟨_, ending, _, ends, shown⟩ :=
      settled_of_isComplete begins runs complete known started
    exact ⟨ending, ends, shown⟩
  · rename_i unstarted
    obtain ⟨cell, found, item⟩ := traces.item index generator known
    rcases item_of_isComplete begins runs complete found with
      ⟨_, waits, missing⟩ | ⟨started, _⟩
    · refine ⟨?_, (Array.getElem?_toList ..).trans missing⟩
      cases cell with
      | waiting own =>
          have none := Retry.attempt_eq_of_replay_eq_trying item.progress.symm
          exact List.length_eq_zero_iff.mp (Nat.succ.inj none).symm
      | _ => cases waits
    · rw [State.gatherAll_dispatched] at started
      exact absurd started unstarted

end World
end Batch
end TenantLoad
