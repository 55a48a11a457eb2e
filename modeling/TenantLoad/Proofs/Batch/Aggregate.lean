import TenantLoad.Proofs.Batch.Halt
import TenantLoad.Proofs.Batch.Result
import TenantLoad.Proofs.Metrics.Permutation
import TenantLoad.Proofs.Text.Excerpt

/-!
# All failures together

The failure of a batch that ran all of its items counts every failed item under
its kind and shows the first ones in item order.  One pass over the outcomes
gathers both, the counts and the examples.
-/

namespace TenantLoad
namespace Batch

variable {Value Error : Type}

/-- Picking views of items is looking at the places that have one. -/
theorem map_some_filterMap
    {Item View : Type}
    (view : Item → Option View)
    (items : List Item) :
    (items.filterMap view).map some =
      ((List.range items.length).filter fun place =>
        items[place]?.any fun item => (view item).isSome).map fun place =>
          items[place]?.bind view := by
  induction items using List.reverseRecOn with
  | nil => rfl
  | append_singleton items item inductionHypothesis =>
      have unchanged : ∀ place ∈ List.range items.length,
          (items ++ [item])[place]? = items[place]? := by
        intro place inside
        exact List.getElem?_append_left (List.mem_range.mp inside)
      have samePlaces : ((List.range items.length).filter fun place =>
          (items ++ [item])[place]?.any fun item => (view item).isSome) =
            (List.range items.length).filter fun place =>
              items[place]?.any fun item => (view item).isSome :=
        List.filter_congr fun place inside => by rw [unchanged place inside]
      have sameViews : ∀ place ∈ (List.range items.length).filter (fun place =>
          items[place]?.any fun item => (view item).isSome),
            ((items ++ [item])[place]?.bind view) = items[place]?.bind view :=
        fun place picked => by rw [unchanged place (List.mem_filter.mp picked).1]
      rw [List.length_append, List.length_singleton, List.range_succ, List.filter_append,
        List.map_append, samePlaces, List.map_congr_left sameViews, ← inductionHypothesis,
        List.filterMap_append, List.map_append]
      cases viewed : view item <;> simp [viewed]

namespace Outcome

/-- The label that the item is counted under, if it failed. -/
def kind? [Retry.Retryable Error] (outcome : Outcome Value Error) : Option String :=
  outcome.failure?.map ItemFailure.kind

theorem isSome_failure?
    (outcome : Outcome Value Error) :
    outcome.failure?.isSome = outcome.isFailure := by
  cases outcome <;> rfl

end Outcome

namespace Report

/-- The places of the failed items, in item order. -/
def failedPlaces (report : Report Value Error) : List Nat :=
  (List.range report.outcomes.length).filter report.hasFailed

section Failures

variable {report : Report Value Error}

theorem length_failures : report.failures.length = report.failed := by
  rw [failures, failed, List.length_filterMap_eq_countP]
  exact List.countP_congr fun outcome _ => by rw [Outcome.isSome_failure?]

/-- The failures are found at the places of the failed items. -/
theorem map_some_failures :
    report.failures.map some =
      report.failedPlaces.map fun place => report.outcomes[place]?.bind Outcome.failure? := by
  rw [failures, map_some_filterMap]
  simp only [Outcome.isSome_failure?]
  rfl

/-- The failure of a rank stands at the place of that rank. -/
theorem exists_failure_of_rank
    {rank place : Nat}
    (ranked : report.failedPlaces[rank]? = some place) :
    ∃ failure, report.outcomes[place]? = some (.failed failure) ∧
      report.failures[rank]? = some failure := by
  have found := congrArg (fun views => views[rank]?) report.map_some_failures
  have isFailed : report.hasFailed place = true :=
    (List.mem_filter.mp (List.mem_of_getElem? ranked)).2
  obtain ⟨outcome, present, fails⟩ := (Option.any_eq_true _ _).mp isFailed
  cases outcome with
  | succeeded | notStarted => cases fails
  | failed failure =>
      refine ⟨failure, present, ?_⟩
      simpa [ranked, present, Outcome.failure?] using found

/-- Where every item was started, each of them failed or succeeded. -/
theorem failed_add_succeeded
    (started : .notStarted ∉ report.outcomes) :
    report.failed + report.succeeded = report.total := by
  have parts := report.outcomes.length_eq_countP_add_countP Outcome.isFailure
  have others : report.outcomes.countP (fun outcome => decide ¬outcome.isFailure = true) =
      report.succeeded := by
    refine List.countP_congr ?_
    intro outcome member
    cases outcome with
    | succeeded | failed => simp [Outcome.isFailure, Outcome.isSuccess]
    | notStarted => exact absurd member started
  rw [failed, ← others, total, parts]

end Failures

variable [Retry.Retryable Error]

/-- The counts and the examples after one more outcome. -/
def note (noted : Tally × List String) : Outcome Value Error → Tally × List String
  | .failed failure =>
    (noted.1.add failure.kind,
      if noted.2.length < Failure.exampleCount then noted.2 ++ [exampleLine failure]
      else noted.2)
  | _ => noted

/-- Counts and examples tell of all failed items of a report. -/
structure Accounts (report : Report Value Error) (byKind : Tally) (examples : List String) :
    Prop where
  total : report.failed + report.succeeded = report.total
  ascending : byKind.Ascending
  /-- A kind is listed with the number of items that failed so, unless there are
  none. -/
  counts : ∀ kind, byKind.lookup kind =
    let occurrences := report.outcomes.countP fun outcome => outcome.kind? == some kind
    if occurrences = 0 then none else some occurrences
  sum : (byKind.map Prod.snd).sum = report.failed
  capped : examples.length = min Failure.exampleCount report.failed
  /-- The examples are those of the first failed items, each with the message as
  far as the limit allows. -/
  shown : ∀ rank place, rank < Failure.exampleCount → report.failedPlaces[rank]? = some place →
    ∃ failure text, report.outcomes[place]? = some (.failed failure) ∧
      Text.Shows Failure.exampleLimit failure.message text ∧
      Text.excerptOfBytes? Failure.exampleLimit failure.message = some text ∧
      examples[rank]? = some (failure.kind ++ ": " ++ text)
  /-- One pass over the outcomes gathers both. -/
  gathered : report.outcomes.foldl note ([], []) = (byKind, examples)

variable {report : Report Value Error}

theorem kindCounts_concat
    (failures : List (ItemFailure Error))
    (failure : ItemFailure Error) :
    kindCounts (failures ++ [failure]) = (kindCounts failures).add failure.kind := by
  simp [kindCounts, Tally.ofList]

/-- One more failure is shown if there is room for an example. -/
theorem examples_concat
    (failures : List (ItemFailure Error))
    (failure : ItemFailure Error) :
    examples (failures ++ [failure]) =
      if (examples failures).length < Failure.exampleCount then
        examples failures ++ [exampleLine failure]
      else examples failures := by
  unfold examples
  rw [List.length_map, List.length_take, List.take_append]
  split
  · rename_i room
    have few : failures.length < Failure.exampleCount := by omega
    have rest : Failure.exampleCount - failures.length ≠ 0 := by omega
    rw [List.take_of_length_le (Nat.le_of_lt few),
      List.take_of_length_le (Nat.one_le_iff_ne_zero.mpr rest), List.map_append]
    rfl
  · rename_i noRoom
    have full : Failure.exampleCount - failures.length = 0 := by omega
    simp [full]

/-- One pass gathers the counts and the examples of all failures. -/
theorem foldl_note
    (outcomes : List (Outcome Value Error)) :
    outcomes.foldl note ([], []) =
      (kindCounts (outcomes.filterMap Outcome.failure?),
        examples (outcomes.filterMap Outcome.failure?)) := by
  induction outcomes using List.reverseRecOn with
  | nil => rfl
  | append_singleton outcomes outcome inductionHypothesis =>
      rw [List.foldl_append, inductionHypothesis, List.filterMap_append]
      cases outcome with
      | succeeded | notStarted =>
          simp [note, List.filterMap_cons, Outcome.failure?]
      | failed failure =>
          simp only [List.foldl_cons, List.foldl_nil, note, List.filterMap_cons, Outcome.failure?,
            List.filterMap_nil, kindCounts_concat, examples_concat]

/-- The counts of the kinds of all failures. -/
theorem lookup_kindCounts
    (kind : String) :
    (kindCounts report.failures).lookup kind =
      let occurrences := report.outcomes.countP fun outcome => outcome.kind? == some kind
      if occurrences = 0 then none else some occurrences := by
  have counted : (report.failures.map ItemFailure.kind).count kind =
      report.outcomes.countP fun outcome => outcome.kind? == some kind := by
    rw [failures, List.count, List.countP_map, List.countP_filterMap]
    refine List.countP_congr ?_
    intro outcome _
    cases outcome <;> simp [Outcome.kind?, Outcome.failure?]
  rw [kindCounts, Tally.lookup_eq_ite (Tally.ascending_and_positive_ofList _).2,
    Tally.count_ofList, counted]

/-- A sound report of a batch that ran all of its items tells of all failures. -/
theorem Sound.accounts
    (sound : report.Sound)
    (failSoft : report.mode = .failSoft)
    (uncancelled : report.cancelled = false) :
    report.Accounts (kindCounts report.failures) (examples report.failures) where
  total := by
    refine failed_add_succeeded ?_
    intro unstarted
    rcases sound.unstarted unstarted with cancelled | ⟨failFast, -⟩
    · simp [uncancelled] at cancelled
    · simp [failSoft] at failFast
  ascending := (Tally.ascending_and_positive_ofList _).1
  counts := lookup_kindCounts
  sum := by rw [kindCounts, Tally.sum_ofList, List.length_map, length_failures]
  capped := by rw [examples, List.length_map, List.length_take, length_failures]
  shown := by
    intro rank place within ranked
    obtain ⟨failure, present, found⟩ := exists_failure_of_rank ranked
    refine ⟨failure, _, present, Text.shows_excerpt .., Text.excerptOfBytes?_eq_excerpt .., ?_⟩
    rw [examples, List.getElem?_map, List.getElem?_take_of_lt within, found]
    rfl
  gathered := foldl_note report.outcomes

end Report

variable [Retry.Retryable Error] {settings : Settings} {raised : Bool} {state : State Value Error}
  {generators : List Random.Generator} {happenings : List (Happening Value Error)}
  {final : World Value Error}

/-- A fail-soft batch within the limit of slots that was not cancelled and in
which items failed ends with the failure that tells of all of them.  A message
that has been shortened for it stays as it is when it is shortened again. -/
theorem aggregate_tells_of_every_failure
    (begins : State.begin? settings generators = some state)
    (runs : World.run settings ⟨raised, state⟩ happenings = some final)
    (complete : final.state.isComplete = true)
    (failSoft : settings.mode = .failSoft)
    (uncancelled : (final.state.report settings).cancelled = false)
    (fails : 0 < (final.state.report settings).failed) :
    (∃ byKind examples,
      (final.state.report settings).result =
          .error (.aggregate (final.state.report settings).failed
            (final.state.report settings).total byKind examples) ∧
        (final.state.report settings).Accounts byKind examples) ∧
      ∀ limit message,
        Text.excerpt limit (Text.excerpt limit message) = Text.excerpt limit message := by
  have mode : (final.state.report settings).mode = .failSoft := failSoft
  have unaborted : (final.state.report settings).abortion? = none :=
    Report.abortion?_eq_none (by simp [mode])
  refine ⟨⟨_, _, ?_, (World.sound_of_isComplete begins runs complete).accounts mode uncancelled⟩,
    Text.excerpt_excerpt⟩
  rw [Report.result_of_abortion?_eq_none unaborted, uncancelled, if_neg Bool.false_ne_true,
    if_pos fails]
  rfl

/-- Seven items one after the other, of which one succeeds, three crash with a
long message and three are rejected. -/
theorem aggregate_tells_of_every_failure_of_six :
    let settings : Settings :=
      { concurrency := 1, mode := .failSoft, policy := ⟨1, .none⟩, classifier := .standard,
        heedsShutdown := false }
    let generators := List.replicate 7 (Random.Generator.ofSeed 7)
    let start : State Nat Api.Error := .initial settings generators
    let result (index : Nat) : Retry.Attempt Nat Api.Error :=
      if index = 0 then .returned 5
      else if index % 2 = 0 then .failed (.rejected 404 "gone")
      else .crashed (String.ofList (List.replicate 200 'é'))
    let happenings : List (Happening Nat Api.Error) :=
      ((List.range 7).flatMap fun index =>
        [.act .look, .act .take, .act .check, .act .launch, .act (.start index),
          .act (.finish index (result index)), .act (.announce index), .act (.rank index),
          .act (.release index)]) ++
        (List.range 7).map fun index => .act (.gather index)
    State.begin? settings generators = some start ∧
      ∃ final, World.run settings ⟨false, start⟩ happenings = some final ∧
        final.state.isComplete = true ∧
        (final.state.report settings).cancelled = false ∧
        (final.state.report settings).failed = 6 ∧
        ∃ byKind examples,
          (final.state.report settings).result =
              .error (.aggregate 6 (final.state.report settings).total byKind examples) ∧
            (final.state.report settings).Accounts byKind examples ∧ examples.length = 5 := by
  intro settings generators start result happenings
  have begins : State.begin? settings generators = some start := rfl
  have runsOn : (World.run settings ⟨false, start⟩ happenings).any
      (fun final => final.state.isComplete && !(final.state.report settings).cancelled &&
        decide ((final.state.report settings).failed = 6)) = true := by
    decide +kernel
  obtain ⟨final, runs, checked⟩ := (Option.any_eq_true _ _).mp runsOn
  simp only [Bool.and_eq_true, Bool.not_eq_true', decide_eq_true_eq] at checked
  obtain ⟨⟨complete, uncancelled⟩, six⟩ := checked
  obtain ⟨⟨byKind, examples, isAggregate, accounts⟩, _⟩ :=
    aggregate_tells_of_every_failure begins runs complete rfl uncancelled (by omega)
  have capped := accounts.capped
  rw [six] at isAggregate capped
  exact ⟨begins, final, runs, complete, uncancelled, six, byKind, examples, isAggregate, accounts,
    capped⟩

end Batch
end TenantLoad
