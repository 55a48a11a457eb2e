import TenantLoad.Proofs.Retry.Replay

/-!
# The course of a retry loop

A loop makes no attempt after it has ended.  `Course` lists the results of all
its attempts with where they lead, so every result but the last one is a
failure that was worth another attempt, and the ending of a loop tells the
last result and, unless the loop crashed, the number of attempts.
-/

namespace TenantLoad
namespace Retry

variable {Value Error : Type}

namespace Attempt

/-- Whether an attempt returned a value. -/
def isReturned : Attempt Value Error → Bool
  | .returned _ => true
  | _ => false

/-- Whether an attempt crashed. -/
def isCrashed : Attempt Value Error → Bool
  | .crashed _ => true
  | _ => false

end Attempt

/-- Whether a loop ended with a value. -/
def Ending.isSuccess : Ending Value Error → Bool
  | .succeeded .. => true
  | _ => false

variable [Retryable Error] {policy : Policy} {classifier : Classifier}
  {generator : Random.Generator} {results : List (Attempt Value Error)}

/-- Why an attempt of the given number is the last one. -/
inductive Settles (policy : Policy) (classifier : Classifier) (attempt : Nat)
    (generator : Random.Generator) : Attempt Value Error → Ending Value Error → Prop
  | returned (value : Value) :
      Settles policy classifier attempt generator (.returned value) (.succeeded value attempt)
  | fatal
      (error : Error)
      (verdict : Retryable.verdict classifier error = .fatal) :
      Settles policy classifier attempt generator (.failed error)
        (.failed (.fatal attempt error))
  | exhausted
      (error : Error)
      (verdict : Retryable.verdict classifier error = .retry)
      (spent : policy.budget ≤ attempt) :
      Settles policy classifier attempt generator (.failed error)
        (.failed (.exhausted attempt error))
  | emptyWindow
      (error : Error)
      (verdict : Retryable.verdict classifier error = .retry)
      (left : attempt < policy.budget)
      (empty : policy.window.draw generator = none) :
      Settles policy classifier attempt generator (.failed error) (.crashed emptyRangeMessage)
  | crashed (message : String) :
      Settles policy classifier attempt generator (.crashed message) (.crashed message)

/-- A loop ends after an attempt for one of these reasons. -/
theorem Settles.of_next
    {attempt : Nat}
    {result : Attempt Value Error}
    {ending : Ending Value Error}
    (decides : next policy classifier attempt generator result = .settle ending) :
    Settles policy classifier attempt generator result ending := by
  unfold next at decides
  split at decides
  · cases decides
    exact .returned _
  · cases decides
    exact .crashed _
  · split at decides
    · rename_i verdict
      cases decides
      exact .fatal _ verdict
    · rename_i verdict
      split at decides
      · rename_i spent
        cases decides
        exact .exhausted _ verdict spent
      · rename_i left
        split at decides
        · cases decides
        · rename_i empty
          cases decides
          exact .emptyWindow _ verdict (Nat.lt_of_not_le left) empty

/-- A loop goes on only after a failure that is worth another attempt. -/
theorem retries_of_next_eq_backOff
    {attempt : Nat}
    {result : Attempt Value Error}
    {delay : Duration}
    {following : Random.Generator}
    (decides : next policy classifier attempt generator result = .backOff delay following) :
    ∃ error, result = .failed error ∧ Retryable.verdict classifier error = .retry :=
  (next_eq_backOff_iff.mp decides).1

/-- The results of all attempts of a loop that stands so. -/
inductive Course (policy : Policy) (classifier : Classifier) (generator : Random.Generator) :
    List (Attempt Value Error) → Progress Value Error → Prop
  | start : Course policy classifier generator [] (.trying 1 generator)
  | attempt
      {results : List (Attempt Value Error)}
      {number : Nat}
      {current : Random.Generator}
      (result : Attempt Value Error)
      (soFar : Course policy classifier generator results (.trying number current)) :
      Course policy classifier generator (results ++ [result])
        ((Progress.trying number current).after policy classifier result)

namespace Course

/-- A course is replayed to where it leads. -/
theorem replay_eq
    {progress : Progress Value Error}
    (course : Course policy classifier generator results progress) :
    replay policy classifier generator results = progress := by
  induction course with
  | start => rfl
  | attempt result soFar inductionHypothesis => rw [replay_concat, inductionHypothesis]

theorem number_eq
    {number : Nat}
    {current : Random.Generator}
    (course : Course policy classifier generator results (.trying number current)) :
    number = results.length + 1 :=
  attempt_eq_of_replay_eq_trying course.replay_eq

/-- A loop makes its attempts within its budget. -/
theorem number_le_budget
    {progress : Progress Value Error}
    {number : Nat}
    {current : Random.Generator}
    (course : Course policy classifier generator results progress)
    (going : progress = .trying number current) :
    number ≤ policy.budget := by
  cases course with
  | start =>
      cases going
      exact policy.one_le_budget
  | attempt result soFar =>
      simp only [Progress.after] at going
      split at going
      · cases going
      · rename_i decides
        cases going
        exact lt_budget_of_next_eq_backOff decides

/-- A loop that has ended did so after its last attempt. -/
theorem last_of_ended
    {ending : Ending Value Error}
    (course : Course policy classifier generator results (.ended ending)) :
    ∃ earlier last current, results = earlier ++ [last] ∧
      Course policy classifier generator earlier (.trying results.length current) ∧
      Settles policy classifier results.length current last ending := by
  generalize stands : Progress.ended ending = progress at course
  cases course with
  | start => cases stands
  | @attempt earlier number current result soFar =>
      have numbered := soFar.number_eq
      simp only [Progress.after] at stands
      split at stands
      · rename_i other decides
        cases stands
        subst numbered
        refine ⟨earlier, result, current, rfl, ?_, ?_⟩
        · simpa using soFar
        · simpa using Settles.of_next decides
      · cases stands

/-- A loop that has ended made no more attempts than its budget. -/
theorem length_le_budget_of_ended
    {ending : Ending Value Error}
    (course : Course policy classifier generator results (.ended ending)) :
    results.length ≤ policy.budget := by
  obtain ⟨_, _, _, _, soFar, _⟩ := course.last_of_ended
  exact soFar.number_le_budget rfl

/-- Every attempt of a loop that goes on failed and was worth another one. -/
theorem failed_of_trying
    {progress : Progress Value Error}
    (course : Course policy classifier generator results progress)
    {number : Nat}
    {current : Random.Generator}
    (going : progress = .trying number current) :
    ∀ result ∈ results, ∃ error, result = .failed error ∧
      Retryable.verdict classifier error = .retry := by
  induction course generalizing number current with
  | start => simp
  | attempt result soFar inductionHypothesis =>
      simp only [Progress.after] at going
      split at going
      · cases going
      · rename_i decides
        intro other member
        rcases List.mem_append.mp member with earlier | last
        · exact inductionHypothesis rfl other earlier
        · rw [List.mem_singleton.mp last]
          exact retries_of_next_eq_backOff decides

theorem not_returned_of_trying
    {number : Nat}
    {current : Random.Generator}
    (course : Course policy classifier generator results (.trying number current)) :
    ∀ result ∈ results, result.isReturned = false := by
  intro result member
  obtain ⟨_, rfl, _⟩ := course.failed_of_trying rfl result member
  rfl

/-- Only the last attempt of a loop can have returned a value, and it did if
the loop succeeded. -/
theorem returned_of_ended
    {ending : Ending Value Error}
    (course : Course policy classifier generator results (.ended ending)) :
    ∃ earlier last, results = earlier ++ [last] ∧
      (∀ result ∈ earlier, result.isReturned = false) ∧
      last.isReturned = ending.isSuccess := by
  obtain ⟨earlier, last, _, split, soFar, settles⟩ := course.last_of_ended
  refine ⟨earlier, last, split, soFar.not_returned_of_trying, ?_⟩
  cases settles <;> rfl

/-- One attempt of a loop that succeeded returned a value, and none of any
other one. -/
theorem countP_isReturned
    {ending : Ending Value Error}
    (course : Course policy classifier generator results (.ended ending)) :
    results.countP Attempt.isReturned = ending.isSuccess.toNat := by
  obtain ⟨earlier, last, rfl, failed, returned⟩ := course.returned_of_ended
  have none : earlier.countP Attempt.isReturned = 0 := by
    rw [List.countP_eq_zero]
    intro result member
    simp [failed result member]
  rw [List.countP_append, none, ← returned]
  cases returnedLast : last.isReturned <;> simp [returnedLast]

end Course

/-- Attempts that end by a script reach a value within the budget: all before
it fail in a way that is worth another attempt, and a delay can be drawn. -/
def Reaches (policy : Policy) (classifier : Classifier) (script : Nat → Attempt Value Error) :
    Prop :=
  ∃ last, 1 ≤ last ∧ last ≤ policy.budget ∧ (script last).isReturned = true ∧
    ∀ attempt, 1 ≤ attempt → attempt < last →
      (∃ error, script attempt = .failed error ∧
        Retryable.verdict classifier error = .retry) ∧
      ∀ generator, (policy.window.draw generator).isSome = true

/-- A loop whose attempts reach a value succeeds. -/
theorem Course.isSuccess_of_reaches
    {ending : Ending Value Error}
    {script : Nat → Attempt Value Error}
    (course : Course policy classifier generator results (.ended ending))
    (reaches : Reaches policy classifier script)
    (obeys : ∀ (place : Nat) (within : place < results.length),
      results[place] = script (place + 1)) :
    ending.isSuccess = true := by
  obtain ⟨last, positive, affordable, returns, before⟩ := reaches
  obtain ⟨earlier, result, current, rfl, soFar, settles⟩ := course.last_of_ended
  have number : (earlier ++ [result]).length = earlier.length + 1 := by simp
  have final : result = script (earlier.length + 1) := by
    simpa using obeys earlier.length (by simp)
  rcases Nat.lt_trichotomy (earlier.length + 1) last with sooner | now | later
  · obtain ⟨⟨error, failed, verdict⟩, draws⟩ := before _ (Nat.le_add_left ..) sooner
    rw [failed] at final
    subst final
    rw [number] at settles
    cases settles with
    | fatal _ fatal =>
        rw [verdict] at fatal
        cases fatal
    | exhausted _ _ spent => omega
    | emptyWindow _ _ _ empty =>
        have drawn := draws current
        rw [empty] at drawn
        cases drawn
  · rw [now] at final
    rw [← final] at returns
    cases settles with
    | returned => rfl
    | fatal | exhausted | emptyWindow | crashed => cases returns
  · -- The value would have been reached before.
    have inside : last - 1 < earlier.length := by omega
    have same : earlier[last - 1] = script last := by
      have place := obeys (last - 1) (by simp; omega)
      rwa [List.getElem_append_left inside, Nat.sub_add_cancel positive] at place
    have failed := soFar.not_returned_of_trying _ (List.getElem_mem inside)
    rw [same, returns] at failed
    cases failed

end Retry
end TenantLoad
