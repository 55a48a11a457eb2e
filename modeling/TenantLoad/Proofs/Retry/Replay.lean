import TenantLoad.Retry.Loop
import Mathlib.Data.List.Induction

/-!
# Retry loops and their histories

The results of the attempts made so far determine where a retry loop stands:
`replay` follows the decisions of the loop through a list of results.  A loop
whose attempts end by a script has the ending of the whole script as soon as a
replay of the results has ended.
-/

namespace TenantLoad
namespace Retry

/-- Where a retry loop stands. -/
inductive Progress (Value Error : Type) where
  /-- The attempt of the given number comes next or is under way. -/
  | trying (attempt : Nat) (generator : Random.Generator)
  | ended (ending : Ending Value Error)

variable {Value Error : Type} [Retryable Error]

/-- Where a loop stands after the result of one more attempt. -/
def Progress.after (policy : Policy) (classifier : Classifier) :
    Progress Value Error → Attempt Value Error → Progress Value Error
  | .trying attempt generator, result =>
    match next policy classifier attempt generator result with
    | .settle ending => .ended ending
    | .backOff _ generator => .trying (attempt + 1) generator
  | .ended ending, _ => .ended ending

/-- Where a loop stands after the given results. -/
def replay (policy : Policy) (classifier : Classifier) (generator : Random.Generator)
    (results : List (Attempt Value Error)) : Progress Value Error :=
  results.foldl (Progress.after policy classifier) (.trying 1 generator)

variable {policy : Policy} {classifier : Classifier} {generator : Random.Generator}
  {results : List (Attempt Value Error)}

@[simp] theorem replay_nil :
    replay policy classifier generator ([] : List (Attempt Value Error)) =
      .trying 1 generator := rfl

@[simp] theorem replay_concat
    (result : Attempt Value Error) :
    replay policy classifier generator (results ++ [result]) =
      (replay policy classifier generator results).after policy classifier result := by
  simp [replay]

/-- The attempts of a loop are numbered from one. -/
theorem attempt_eq_of_replay_eq_trying
    {attempt : Nat}
    {current : Random.Generator}
    (stands : replay policy classifier generator results = .trying attempt current) :
    attempt = results.length + 1 := by
  induction results using List.reverseRecOn generalizing attempt current with
  | nil =>
      cases stands
      rfl
  | append_singleton earlier result inductionHypothesis =>
      rw [replay_concat] at stands
      cases before : replay policy classifier generator earlier with
      | ended ending =>
          rw [before] at stands
          cases stands
      | trying previous generator =>
          have numbered := inductionHypothesis before
          simp only [before, Progress.after] at stands
          split at stands
          · cases stands
          · cases stands
            simp [numbered]

/-! ## Scripted loops -/

variable {script : Nat → Nat × Attempt Value Error}

/-- The ending of a scripted loop, one decision at a time. -/
theorem runFrom_ending
    (attempt now : Nat)
    (generator : Random.Generator) :
    (runFrom policy classifier script attempt now generator).ending =
      match next policy classifier attempt generator (script attempt).2 with
      | .settle ending => ending
      | .backOff delay generator =>
          (runFrom policy classifier script (attempt + 1)
            (now + (script attempt).1 + delay.timerMilliseconds) generator).ending := by
  rw [runFrom]
  split <;> rename_i decision <;> simp only [decision]

/-- The ending of a scripted loop does not depend on when it runs. -/
theorem runFrom_ending_eq
    (attempt now other : Nat)
    (generator : Random.Generator) :
    (runFrom policy classifier script attempt now generator).ending =
      (runFrom policy classifier script attempt other generator).ending := by
  induction attempt, now, generator using runFrom.induct policy classifier script
    generalizing other with
  | case1 attempt now generator ending decision =>
      rw [runFrom_ending, runFrom_ending, decision]
  | case2 attempt now generator _ delay following decision _ inductionHypothesis =>
      rw [runFrom_ending, runFrom_ending, decision]
      exact inductionHypothesis _

/-- The ending that a script has in store for a loop. -/
def Progress.outlook (policy : Policy) (classifier : Classifier)
    (script : Nat → Nat × Attempt Value Error) :
    Progress Value Error → Ending Value Error
  | .trying attempt generator => (runFrom policy classifier script attempt 0 generator).ending
  | .ended ending => ending

/-- An attempt that ends by the script does not change what is in store. -/
theorem Progress.outlook_after
    (attempt : Nat)
    (generator : Random.Generator) :
    ((trying attempt generator).after policy classifier (script attempt).2).outlook
        policy classifier script =
      (trying attempt generator).outlook policy classifier script := by
  simp only [after, outlook]
  rw [runFrom_ending]
  cases decision : next policy classifier attempt generator (script attempt).2 with
  | settle ending => rfl
  | backOff delay following => exact runFrom_ending_eq _ _ _ _

/-- Results that a script gave leave its ending in store. -/
theorem outlook_replay
    (follows : ∀ place result, results[place]? = some result →
      result = (script (place + 1)).2) :
    (replay policy classifier generator results).outlook policy classifier script =
      (run policy classifier script generator).ending := by
  induction results using List.reverseRecOn with
  | nil => rfl
  | append_singleton earlier result inductionHypothesis =>
      have earlierFollows : ∀ place result, earlier[place]? = some result →
          result = (script (place + 1)).2 := by
        intro place result found
        apply follows place result
        rw [List.getElem?_append_left (List.getElem?_eq_some_iff.mp found).1, found]
      have last : result = (script (earlier.length + 1)).2 :=
        follows earlier.length result (by simp)
      rw [← inductionHypothesis earlierFollows, replay_concat]
      cases stands : replay policy classifier generator earlier with
      | ended ending => rfl
      | trying attempt current =>
          obtain rfl := attempt_eq_of_replay_eq_trying stands
          rw [last]
          exact Progress.outlook_after _ _

/-- A replay of scripted results that has ended has the ending of the scripted
loop. -/
theorem ending_eq_of_replay_eq_ended
    {ending : Ending Value Error}
    (follows : ∀ place result, results[place]? = some result →
      result = (script (place + 1)).2)
    (ended : replay policy classifier generator results = .ended ending) :
    ending = (run policy classifier script generator).ending := by
  have inStore : (replay policy classifier generator results).outlook policy classifier script =
      (run policy classifier script generator).ending := outlook_replay follows
  rwa [ended] at inStore

end Retry
end TenantLoad
