import TenantLoad.Proofs.Batch.History
import TenantLoad.Proofs.Retry.Course

/-!
# The courses of a batch's items

In every run of a batch the attempts of an item are the course of its retry
loop: they stop where the loop ends.  `Traces` alone does not say so, since a
replay passes over whatever follows an ending.
-/

namespace TenantLoad
namespace Batch

variable {Value Error : Type} [Retry.Retryable Error] {settings : Settings} {raised : Bool}
  {state next : State Value Error} {act : Act Value Error} {acts : List (Act Value Error)}
  {generators : List Random.Generator}

/-- The attempts of every item are the course of its loop. -/
def Courses (settings : Settings) (generators : List Random.Generator)
    (acts : List (Act Value Error)) (state : State Value Error) : Prop :=
  ∀ (index : Nat) (generator : Random.Generator) (cell : Cell Value Error),
    generators[index]? = some generator → state.cells[index]? = some cell →
      Retry.Course settings.policy settings.classifier generator (results index acts)
        cell.progress

/-- One act keeps the attempts of every item a course. -/
theorem Courses.step
    (courses : Courses settings generators acts state)
    (moves : Moves settings raised state act next) :
    Courses settings generators (acts ++ [act]) next := by
  intro index generator after known present
  obtain ⟨before, found, cellMoves⟩ := moves.cell_before present
  have course := courses index generator before known found
  rw [results_concat]
  cases cellMoves with
  | keep cell other =>
      rw [Act.result?_eq_none other]
      simpa using course
  | finish attempt current result =>
      rw [Cell.progress_afterAttempt]
      simpa [Act.result?] using Retry.Course.attempt result course
  | launch | start | resume | announce | rank | release =>
      simpa [Act.result?, Cell.progress] using course

theorem Courses.initial
    (settings : Settings)
    (generators : List Random.Generator) :
    Courses settings generators ([] : List (Act Value Error)) (.initial settings generators) := by
  intro index generator cell known present
  rw [State.getElem?_cells_initial, known, Option.map_some, Option.some.injEq] at present
  subst present
  exact .start

/-- In every run the attempts of every item are the course of its loop. -/
theorem World.courses_of_run
    {happenings : List (Happening Value Error)}
    {final : World Value Error}
    (begins : State.begin? settings generators = some state)
    (runs : World.run settings ⟨raised, state⟩ happenings = some final) :
    Courses settings generators (actsOf happenings) final.state := by
  obtain rfl := State.eq_initial_of_begin?_eq_some begins
  exact World.run_state_induction (motive := Courses settings generators)
    (Courses.initial settings generators)
    (fun _ _ _ _ _ soFar moves => soFar.step moves) runs

end Batch
end TenantLoad
