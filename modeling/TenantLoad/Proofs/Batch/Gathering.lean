import TenantLoad.Proofs.Batch.Dispatch

/-!
# The outcomes that are gathered

The collector holds the outcome of every item that has arrived and of no
other, and the failed item it keeps is the one of those that ended first.
Both hold for every order of arrival.  In a complete batch the outcome of each
item is the one its own attempts lead to.
-/

namespace TenantLoad
namespace Batch

variable {Value Error : Type} {state next : State Value Error}

/-- The outcome of an item that ended as the given one has arrived at the
collector. -/
structure State.Gathered (state : State Value Error) (index order : Nat)
    (ending : Retry.Ending Value Error) : Prop where
  settled : state.cells[index]? = some (.settled order ending)
  arrived : state.collection.outcomes[index]? = some (.ofEnding ending)

/-- An item has failed and its outcome has arrived. -/
def State.GatheredFailure (state : State Value Error) (index order : Nat) : Prop :=
  ∃ ending, state.Gathered index order ending ∧ (Outcome.ofEnding ending).isFailure = true

/-- What the collector holds. -/
structure Gathers (state : State Value Error) : Prop where
  size : state.collection.outcomes.size = state.cells.size
  outcome : ∀ index outcome, state.collection.outcomes[index]? = some outcome →
    outcome = .notStarted ∨ ∃ order ending, state.Gathered index order ending
  unfailed : state.collection.firstFailure = none →
    ∀ index order, ¬state.GatheredFailure index order
  first : ∀ index order, state.collection.firstFailure = some (index, order) →
    state.GatheredFailure index order ∧
      ∀ other place, state.GatheredFailure other place → order ≤ place

theorem Collection.lacks_eq_true_iff
    (collection : Collection Value Error)
    (index : Nat) :
    collection.lacks index = true ↔ collection.outcomes[index]? = some .notStarted := by
  unfold lacks
  split
  · rename_i found
    simp [found]
  · rename_i absent
    simpa using absent

theorem Outcome.ofEnding_ne_notStarted
    (ending : Retry.Ending Value Error) :
    ofEnding ending ≠ .notStarted := by
  cases ending <;> simp [ofEnding]

namespace Gathers

/-- An outcome that is not missing has arrived from its item. -/
theorem gathered_of_arrived
    (gathers : Gathers state)
    {index : Nat}
    {ending : Retry.Ending Value Error}
    (arrived : state.collection.outcomes[index]? = some (.ofEnding ending)) :
    ∃ order ending, state.Gathered index order ending := by
  rcases gathers.outcome index _ arrived with missing | gathered
  · exact absurd missing (Outcome.ofEnding_ne_notStarted ending)
  · exact gathered

/-- As long as nothing arrives and what has settled stays, the collector holds
what it held. -/
theorem of_settled_stays
    (gathers : Gathers state)
    (size : next.cells.size = state.cells.size)
    (same : next.collection = state.collection)
    (stays : ∀ (index order : Nat) (ending : Retry.Ending Value Error),
      state.cells[index]? = some (.settled order ending) →
        next.cells[index]? = some (.settled order ending)) :
    Gathers next := by
  have gathered_iff : ∀ index order ending,
      next.Gathered index order ending ↔ state.Gathered index order ending := by
    intro index order ending
    constructor
    · rintro ⟨settled, arrived⟩
      rw [same] at arrived
      obtain ⟨place, before, known⟩ := gathers.gathered_of_arrived arrived
      have stayed := stays index place before known.settled
      rw [settled, Option.some.injEq, Cell.settled.injEq] at stayed
      obtain ⟨rfl, rfl⟩ := stayed
      exact known
    · rintro ⟨settled, arrived⟩
      exact ⟨stays index order ending settled, by rw [same]; exact arrived⟩
  have failure_iff : ∀ index order,
      next.GatheredFailure index order ↔ state.GatheredFailure index order := by
    intro index order
    simp only [State.GatheredFailure, gathered_iff]
  constructor
  · rw [same, size]
    exact gathers.size
  · intro index outcome found
    rw [same] at found
    simpa only [gathered_iff] using gathers.outcome index outcome found
  · intro none index order
    rw [same] at none
    rw [failure_iff]
    exact gathers.unfailed none index order
  · intro index order kept
    rw [same] at kept
    simpa only [failure_iff] using gathers.first index order kept

end Gathers

/-! ## One outcome arrives -/

/-- The state after the outcome of an item has arrived. -/
abbrev State.afterGather (state : State Value Error) (index order : Nat)
    (ending : Retry.Ending Value Error) : State Value Error :=
  { state with collection := state.collection.add index order (.ofEnding ending) }

variable {index order : Nat} {ending : Retry.Ending Value Error}

/-- The item whose outcome arrives joins those gathered before. -/
theorem State.gathered_afterGather_iff
    (found : state.cells[index]? = some (.settled order ending))
    (lacking : state.collection.lacks index = true)
    {other place : Nat}
    {otherEnding : Retry.Ending Value Error} :
    (state.afterGather index order ending).Gathered other place otherEnding ↔
      state.Gathered other place otherEnding ∨
        other = index ∧ place = order ∧ otherEnding = ending := by
  rw [Collection.lacks_eq_true_iff] at lacking
  by_cases same : index = other
  · subst same
    constructor
    · rintro ⟨settled, _⟩
      change state.cells[index]? = _ at settled
      rw [found, Option.some.injEq, Cell.settled.injEq] at settled
      exact Or.inr ⟨rfl, settled.1.symm, settled.2.symm⟩
    · rintro (known | ⟨_, rfl, rfl⟩)
      · have arrived := known.arrived
        rw [lacking, Option.some.injEq] at arrived
        exact absurd arrived.symm (Outcome.ofEnding_ne_notStarted _)
      · have inside := (Array.getElem?_eq_some_iff.mp lacking).1
        exact ⟨found, Array.getElem?_setIfInBounds_self_of_lt inside⟩
  · have elsewhere : (state.afterGather index order ending).collection.outcomes[other]? =
        state.collection.outcomes[other]? := Array.getElem?_setIfInBounds_ne same
    constructor
    · rintro ⟨settled, arrived⟩
      rw [elsewhere] at arrived
      exact Or.inl ⟨settled, arrived⟩
    · rintro (known | ⟨rfl, _⟩)
      · exact ⟨known.settled, by rw [elsewhere]; exact known.arrived⟩
      · exact absurd rfl same

theorem State.gatheredFailure_afterGather_iff
    (found : state.cells[index]? = some (.settled order ending))
    (lacking : state.collection.lacks index = true)
    {other place : Nat} :
    (state.afterGather index order ending).GatheredFailure other place ↔
      state.GatheredFailure other place ∨
        other = index ∧ place = order ∧ (Outcome.ofEnding ending).isFailure = true := by
  simp only [State.GatheredFailure, State.gathered_afterGather_iff found lacking]
  constructor
  · rintro ⟨otherEnding, known | ⟨rfl, rfl, rfl⟩, fails⟩
    · exact Or.inl ⟨otherEnding, known, fails⟩
    · exact Or.inr ⟨rfl, rfl, fails⟩
  · rintro (⟨otherEnding, known, fails⟩ | ⟨rfl, rfl, fails⟩)
    · exact ⟨otherEnding, Or.inl known, fails⟩
    · exact ⟨ending, Or.inr ⟨rfl, rfl, rfl⟩, fails⟩

namespace Gathers

/-- The first failure that is kept stays first when an outcome arrives. -/
theorem first_afterGather
    (gathers : Gathers state)
    (found : state.cells[index]? = some (.settled order ending))
    (lacking : state.collection.lacks index = true)
    {kept keptOrder : Nat}
    (keeps : (state.afterGather index order ending).collection.firstFailure =
      some (kept, keptOrder)) :
    (state.afterGather index order ending).GatheredFailure kept keptOrder ∧
      ∀ other place, (state.afterGather index order ending).GatheredFailure other place →
        keptOrder ≤ place := by
  simp only [State.gatheredFailure_afterGather_iff found lacking]
  simp only [Collection.add] at keeps
  split at keeps
  · -- The arriving item is the first failure now: what was kept ended later.
    rename_i replaces
    simp only [Bool.and_eq_true] at replaces
    obtain ⟨fails, precedes⟩ := replaces
    cases keeps
    refine ⟨Or.inr ⟨rfl, rfl, fails⟩, ?_⟩
    rintro other place (known | ⟨_, rfl, _⟩)
    · cases before : state.collection.firstFailure with
      | none => exact absurd known (gathers.unfailed before other place)
      | some pair =>
          obtain ⟨old, oldOrder⟩ := pair
          have least := (gathers.first old oldOrder before).2 other place known
          simp only [Collection.precedes, before, decide_eq_true_eq] at precedes
          omega
    · exact Nat.le_refl _
  · rename_i stays
    obtain ⟨known, least⟩ := gathers.first kept keptOrder keeps
    refine ⟨Or.inl known, ?_⟩
    rintro other place (earlier | ⟨_, rfl, fails⟩)
    · exact least other place earlier
    · simp only [fails, Collection.precedes, keeps, Bool.true_and, decide_eq_true_eq] at stays
      omega

/-- An outcome that arrives is put in its place and compared with the first
failure so far. -/
theorem afterGather
    (gathers : Gathers state)
    (found : state.cells[index]? = some (.settled order ending))
    (lacking : state.collection.lacks index = true) :
    Gathers (state.afterGather index order ending) where
  size := by
    simp only [Collection.add, Array.size_setIfInBounds]
    exact gathers.size
  outcome := by
    intro other outcome present
    simp only [State.gathered_afterGather_iff found lacking]
    by_cases same : index = other
    · exact Or.inr ⟨order, ending, Or.inr ⟨same.symm, rfl, rfl⟩⟩
    · rw [show (state.afterGather index order ending).collection.outcomes[other]? =
          state.collection.outcomes[other]? from Array.getElem?_setIfInBounds_ne same] at present
      rcases gathers.outcome other outcome present with missing | ⟨place, otherEnding, known⟩
      · exact Or.inl missing
      · exact Or.inr ⟨place, otherEnding, Or.inl known⟩
  unfailed := by
    intro none other place
    rw [State.gatheredFailure_afterGather_iff found lacking]
    simp only [Collection.add] at none
    split at none
    · cases none
    · rename_i stays
      rintro (known | ⟨_, _, fails⟩)
      · exact gathers.unfailed none other place known
      · simp [fails, Collection.precedes, none] at stays
  first := fun _ _ keeps => gathers.first_afterGather found lacking keeps

theorem initial
    (settings : Settings)
    (generators : List Random.Generator) :
    Gathers (.initial settings generators : State Value Error) where
  size := by simp [State.initial, Collection.empty]
  outcome := by
    intro index outcome present
    left
    simp only [State.initial, Collection.empty, Array.getElem?_replicate] at present
    split at present
    · exact (Option.some.inj present).symm
    · cases present
  unfailed := by
    rintro _ index order ⟨ending, ⟨settled, _⟩, _⟩
    obtain ⟨generator, waiting⟩ := State.eq_waiting_of_initial settled
    cases waiting
  first := by simp [State.initial, Collection.empty]

end Gathers

variable [Retry.Retryable Error] {settings : Settings} {raised : Bool} {act : Act Value Error}

/-- What has settled stays settled. -/
theorem Moves.settled_stays
    (moves : Moves settings raised state act next)
    (settled : state.cells[index]? = some (.settled order ending)) :
    next.cells[index]? = some (.settled order ending) := by
  obtain ⟨after, present, cellMoves⟩ := moves.cell settled
  cases cellMoves with
  | keep => exact present

/-- One act keeps what the collector holds in order. -/
theorem Gathers.step
    (gathers : Gathers state)
    (moves : Moves settings raised state act next) :
    Gathers next := by
  have stays : ∀ (index order : Nat) (ending : Retry.Ending Value Error),
      state.cells[index]? = some (.settled order ending) →
        next.cells[index]? = some (.settled order ending) :=
    fun _ _ _ settled => moves.settled_stays settled
  have size := moves.cells_size
  cases moves with
  | gather index order ending found finished lacking => exact gathers.afterGather found lacking
  | _ => exact gathers.of_settled_stays size rfl stays

/-- Every run keeps what the collector holds in order. -/
theorem World.gathers_of_run
    {generators : List Random.Generator}
    {happenings : List (Happening Value Error)}
    {final : World Value Error}
    (begins : State.begin? settings generators = some state)
    (runs : World.run settings ⟨raised, state⟩ happenings = some final) :
    Gathers final.state := by
  obtain rfl := State.eq_initial_of_begin?_eq_some begins
  exact World.run_state_induction (motive := fun _ current => Gathers current)
    (Gathers.initial settings generators)
    (fun _ _ _ _ _ soFar moves => soFar.step moves) runs

end Batch
end TenantLoad
