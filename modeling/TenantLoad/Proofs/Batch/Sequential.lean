import TenantLoad.Proofs.Batch.Result

/-!
# Concurrency does not show in the result

Where the results of the attempts depend on the item and the number of the
attempt alone, a fail-soft batch that shutdown leaves alone has the outcomes
of running its items one after the other.  Neither the slots nor the schedule
nor the lengths of the attempts show in its result.
-/

namespace TenantLoad
namespace Batch

/-- The outcomes of items that run one after the other, each through a retry
loop of its own. -/
def sequentialOutcomes {Item Value Error : Type} [Retry.Retryable Error] (policy : Retry.Policy)
    (classifier : Retry.Classifier) (script : Item → Nat → Nat × Retry.Attempt Value Error)
    (items : List Item) (generators : List Random.Generator) : List (Outcome Value Error) :=
  List.zipWith
    (fun item generator =>
      .ofEnding (Retry.run policy classifier (script item) generator).ending)
    items generators

/-- The attempts of every item ended as a script has it. -/
def Obeys {Item Value Error : Type} (items : List Item)
    (script : Item → Nat → Nat × Retry.Attempt Value Error) (acts : List (Act Value Error)) :
    Prop :=
  ∀ index item, items[index]? = some item →
    ∀ place result, (results index acts)[place]? = some result →
      result = (script item (place + 1)).2

@[simp] theorem length_itemGenerators
    {Source : Type}
    [Random.Words Source]
    (count : Nat)
    (caller : Source) :
    (itemGenerators count caller).1.length = count := by
  induction count generalizing caller with
  | zero => rfl
  | succ count inductionHypothesis =>
      exact congrArg (· + 1) (inductionHypothesis (Random.Words.nextLong caller).2)

variable {Item Value Error : Type} {items : List Item}
  {script : Item → Nat → Nat × Retry.Attempt Value Error} {acts : List (Act Value Error)}
  {act : Act Value Error}

/-- One more attempt that ends by the script leaves the script obeyed. -/
theorem Obeys.concat
    (obeys : Obeys items script acts)
    (answered : ∀ index item result, items[index]? = some item → act = .finish index result →
      result = (script item ((results index acts).length + 1)).2) :
    Obeys items script (acts ++ [act]) := by
  intro index item known place result found
  rw [results_concat] at found
  cases last : act.result? index with
  | none =>
      rw [last, Option.toList_none, List.append_nil] at found
      exact obeys index item known place result found
  | some latest =>
      have finishes : act = .finish index latest := by
        cases act <;> simp_all [Act.result?]
      rw [last, Option.toList_some, List.getElem?_append] at found
      split at found
      · exact obeys index item known place result found
      · rw [List.getElem?_singleton] at found
        split at found
        · obtain rfl := Option.some.inj found
          have here : place = (results index acts).length := by omega
          rw [here]
          exact answered index item _ known finishes
        · cases found

variable [Retry.Retryable Error] {settings : Settings} {raised : Bool}
  {state : State Value Error} {generators : List Random.Generator}
  {happenings : List (Happening Value Error)} {final : World Value Error}

/-- A run that obeys a script can be carried on until the batch is complete,
still by the script. -/
theorem World.exists_completion_of_obeys
    (begins : State.begin? settings generators = some state)
    (runs : World.run settings ⟨raised, state⟩ happenings = some final)
    (obeys : Obeys items script (actsOf happenings)) :
    ∃ (later : List (Act Value Error)) (complete : World Value Error),
      World.run settings final (later.map .act) = some complete ∧
        complete.state.isComplete = true ∧ Obeys items script (actsOf happenings ++ later) := by
  refine World.exists_completion
    (fun index attempt =>
      match items[index]? with
      | some item => (script item attempt).2
      | none => .crashed "")
    ?_ begins runs obeys
  intro past act soFar answered
  refine soFar.concat ?_
  intro index item result known finishes
  have := answered index result finishes
  simpa only [known] using this

/-- A dispatcher that is left alone is not stopped by shutdown. -/
theorem World.cancelled_eq_false_of_run
    (begins : State.begin? settings generators = some state)
    (runs : World.run settings ⟨raised, state⟩ happenings = some final)
    (undisturbed : settings.heedsShutdown = true → raised = false ∧ .raise ∉ happenings) :
    (final.state.report settings).cancelled = false := by
  rw [Bool.eq_false_iff]
  intro cancelled
  have stopped := final.state.dispatcher_eq_of_cancelled cancelled
  obtain ⟨heeds, isRaised⟩ := World.raised_of_run_of_stopped begins runs stopped
  obtain ⟨unraised, never⟩ := undisturbed heeds
  rcases World.raised_of_run runs isRaised with atFirst | later
  · rw [unraised] at atFirst
    cases atFirst
  · exact never later

/-- Every item of an undisturbed fail-soft batch has the outcome of running it
alone. -/
theorem World.outcomes_eq_sequentialOutcomes
    {Source : Type}
    [Random.Words Source]
    {caller : Source}
    (failSoft : settings.mode = .failSoft)
    (begins : State.begin? settings (itemGenerators items.length caller).1 = some state)
    (runs : World.run settings ⟨raised, state⟩ happenings = some final)
    (undisturbed : settings.heedsShutdown = true → raised = false ∧ .raise ∉ happenings)
    (obeys : Obeys items script (actsOf happenings))
    (complete : final.state.isComplete = true) :
    (final.state.report settings).outcomes =
      sequentialOutcomes settings.policy settings.classifier script items
        (itemGenerators items.length caller).1 := by
  have started : .notStarted ∉ (final.state.report settings).outcomes := by
    intro member
    rcases (World.sound_of_isComplete begins runs complete).unstarted member with
      cancelled | ⟨failFast, _⟩
    · rw [World.cancelled_eq_false_of_run begins runs undisturbed] at cancelled
      cases cancelled
    · cases failSoft.symm.trans failFast
  rw [World.outcomes_of_isComplete begins runs complete] at started ⊢
  apply List.ext_getElem?
  intro index
  rw [sequentialOutcomes, List.getElem?_mapIdx, List.getElem?_zipWith]
  cases known : items[index]? with
  | none =>
      have outside : (itemGenerators items.length caller).1[index]? = none := by
        rw [List.getElem?_eq_none_iff] at known ⊢
        rwa [length_itemGenerators]
      rw [outside]
      rfl
  | some item =>
      have inside : index < (itemGenerators items.length caller).1.length := by
        rw [length_itemGenerators]
        exact (List.getElem?_eq_some_iff.mp known).1
      rw [List.getElem?_eq_getElem inside]
      simp only [Option.map_some, Option.some.injEq]
      cases stands : Retry.replay settings.policy settings.classifier
          (itemGenerators items.length caller).1[index] (results index (actsOf happenings)) with
      | ended ending =>
          rw [Outcome.ofProgress,
            Retry.ending_eq_of_replay_eq_ended (obeys index item known) stands]
      | trying attempt generator =>
          refine absurd ?_ started
          rw [List.mem_mapIdx]
          exact ⟨index, inside, by rw [stands]; rfl⟩

/-- The mode, the outcomes and the cancellation of a fail-soft report make its
result. -/
theorem Report.result_eq_of_failSoft
    {first second : Report Value Error}
    (firstFailSoft : first.mode = .failSoft)
    (secondFailSoft : second.mode = .failSoft)
    (outcomes : first.outcomes = second.outcomes)
    (cancelled : first.cancelled = second.cancelled) :
    first.result = second.result := by
  have spared : first.abortion? = none := abortion?_eq_none (by simp [firstFailSoft])
  have alsoSpared : second.abortion? = none := abortion?_eq_none (by simp [secondFailSoft])
  rw [result_of_abortion?_eq_none spared, result_of_abortion?_eq_none alsoSpared, failed, failed,
    failures, failures, outcomes, cancelled]

/-- A fail-soft batch whose slots there can be begins.  As long as its
attempts end by a script, and shutdown leaves it alone, no schedule goes on
for ever and each can be carried on until the batch is complete.  Then its
outcomes are those of its items run one after the other by the script, each
with its own generator, and its result is the one of these outcomes, whatever
the number of slots, the schedule and the source of words that the items are
seeded from. -/
theorem concurrency_does_not_show
    {Source : Type}
    [Random.Words Source]
    (caller : Source)
    (failSoft : settings.mode = .failSoft)
    (fits : settings.concurrency ≤ slotLimit)
    (undisturbed : settings.heedsShutdown = true → raised = false ∧ .raise ∉ happenings)
    (obeys : Obeys items script (actsOf happenings)) :
    ∃ state : State Value Error,
      State.begin? settings (itemGenerators items.length caller).1 = some state ∧
        ∀ final, World.run settings ⟨raised, state⟩ happenings = some final →
          (actsOf happenings).length ≤
              items.length * (2 * settings.policy.budget + 8) + 3 ∧
            (∃ (later : List (Act Value Error)) (complete : World Value Error),
              World.run settings final (later.map .act) = some complete ∧
                complete.state.isComplete = true ∧
                Obeys items script (actsOf happenings ++ later)) ∧
            (final.state.isComplete = true →
              (final.state.report settings).outcomes =
                  sequentialOutcomes settings.policy settings.classifier script items
                    (itemGenerators items.length caller).1 ∧
                (final.state.report settings).result =
                  Report.result
                    { mode := .failSoft
                      outcomes :=
                        sequentialOutcomes settings.policy settings.classifier script items
                          (itemGenerators items.length caller).1
                      firstFailure := none
                      cancelled := false }) := by
  have begins : State.begin? settings (itemGenerators items.length caller).1 =
      some (.initial settings _ : State Value Error) :=
    State.begin?_eq_some_initial fits _
  refine ⟨_, begins, ?_⟩
  intro final runs
  refine ⟨?_, World.exists_completion_of_obeys begins runs obeys, ?_⟩
  · have bounded := World.length_actsOf_le_of_run begins runs
    rwa [length_itemGenerators] at bounded
  · intro complete
    have outcomes := World.outcomes_eq_sequentialOutcomes failSoft begins runs undisturbed obeys
      complete
    exact ⟨outcomes,
      Report.result_eq_of_failSoft failSoft rfl outcomes
        (World.cancelled_eq_false_of_run begins runs undisturbed)⟩

/-- Two items in two slots that both fail at first; the second one ends before
the first one does. -/
theorem concurrency_does_not_show_out_of_order :
    let settings : Settings :=
      { concurrency := 2, mode := .failSoft, policy := ⟨2, .none⟩, classifier := .standard,
        heedsShutdown := true }
    let script (item : Nat) (attempt : Nat) : Nat × Retry.Attempt Nat Api.Error :=
      (item, if attempt = 1 then .failed (.transport "reset") else .returned item)
    let reset : Retry.Attempt Nat Api.Error := .failed (.transport "reset")
    let generators := (itemGenerators 2 (Random.Generator.ofSeed 7)).1
    let happenings : List (Happening Nat Api.Error) :=
      [.act .look, .act .take, .act .check, .act .launch, .act .look, .act .take, .act .check,
        .act .launch, .act (.start 1), .act (.start 0), .act (.finish 1 reset),
        .act (.finish 0 reset), .act (.resume 1), .act (.finish 1 (.returned 6)),
        .act (.announce 1), .act (.rank 1), .act (.resume 0), .act (.release 1),
        .act (.finish 0 (.returned 8)), .act (.announce 0), .act (.rank 0), .act (.release 0),
        .act (.gather 1), .act (.gather 0)]
    ∃ state, State.begin? settings generators = some state ∧
      ∃ final, World.run settings ⟨false, state⟩ happenings = some final ∧
        (final.state.report settings).outcomes =
          sequentialOutcomes settings.policy settings.classifier script [8, 6] generators := by
  intro settings script reset generators happenings
  have obeys : Obeys [8, 6] script (actsOf happenings) := by
    have first : results 0 (actsOf happenings) = [reset, .returned 8] := rfl
    have second : results 1 (actsOf happenings) = [reset, .returned 6] := rfl
    intro index item known place result found
    rcases index with _ | _ | index
    · rw [first] at found
      rcases place with _ | _ | place <;> cases known <;> cases found <;> rfl
    · rw [second] at found
      rcases place with _ | _ | place <;> cases known <;> cases found <;> rfl
    · cases known
  have failSoft : settings.mode = .failSoft := rfl
  have fits : settings.concurrency ≤ slotLimit := by decide
  have undisturbed : settings.heedsShutdown = true → false = false ∧ .raise ∉ happenings := by
    simp [happenings]
  obtain ⟨state, begins, shown⟩ :=
    concurrency_does_not_show (Random.Generator.ofSeed 7) failSoft fits undisturbed obeys
  have runsOn : (World.run settings ⟨false, state⟩ happenings).any
      (fun final => final.state.isComplete) = true := by
    obtain rfl := State.eq_initial_of_begin?_eq_some begins
    decide +kernel
  obtain ⟨final, runs, complete⟩ := (Option.any_eq_true _ _).mp runsOn
  exact ⟨state, begins, final, runs, ((shown final runs).2.2 complete).1⟩

/-- A batch that asks for one slot more than there can be does not begin,
though its item could be run alone. -/
theorem concurrency_shows_beyond_the_limit :
    let settings : Settings :=
      { concurrency := 0x2000000000000000, mode := .failSoft, policy := .standard,
        classifier := .standard, heedsShutdown := true }
    let script (_ : Unit) (_ : Nat) : Nat × Retry.Attempt Unit Api.Error := (0, .returned ())
    let generators := (itemGenerators 1 (Random.Generator.ofSeed 7)).1
    State.begin? settings generators = (none : Option (State Unit Api.Error)) ∧
      sequentialOutcomes settings.policy settings.classifier script [()] generators =
        [.succeeded () 1] := by
  intro settings script generators
  constructor
  · rw [State.begin?, if_neg (by decide)]
  · have alone (generator : Random.Generator) :
        (Retry.run settings.policy settings.classifier (script ()) generator).ending =
          .succeeded () 1 := by
      rw [Retry.run, Retry.runFrom_ending]
      rfl
    obtain ⟨generator, single⟩ :=
      List.length_eq_one_iff.mp (length_itemGenerators 1 (Random.Generator.ofSeed 7))
    simp only [generators, single, sequentialOutcomes, List.zipWith_cons_cons,
      List.zipWith_nil_left, alone, Outcome.ofEnding]

end Batch
end TenantLoad
