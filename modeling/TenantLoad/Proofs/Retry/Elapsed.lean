import TenantLoad.Api.Error
import TenantLoad.Proofs.Retry.Window
import Mathlib.Algebra.Order.BigOperators.Group.List
import Mathlib.Algebra.Order.Ring.Nat

/-!
# How long a retry loop takes

The attempts of a loop are numbered one after the other, and every attempt but
the first begins when the delay before it is over.  So a loop takes the time of
its attempts and of the delays that it draws, each rounded up to a whole
millisecond, and the delays keep to the window they are drawn from.
-/

namespace TenantLoad
namespace Retry

variable {Value Error : Type} {script : Nat → Nat × Attempt Value Error}
  {attempt now : Nat} {stays : List Stay} {delays : List Duration}

/-- Attempts from the given number and time on, with the delays between them:
each lasts as long as the script says, and the next one begins when the delay
after it is over. -/
inductive Paced (script : Nat → Nat × Attempt Value Error) :
    Nat → Nat → List Stay → List Duration → Prop
  | last (attempt now : Nat) :
      Paced script attempt now [⟨attempt, now, now + (script attempt).1⟩] []
  | goOn
      {attempt now : Nat}
      {stays : List Stay}
      {delays : List Duration}
      (delay : Duration)
      (rest : Paced script (attempt + 1)
        (now + (script attempt).1 + delay.timerMilliseconds) stays delays) :
      Paced script attempt now (⟨attempt, now, now + (script attempt).1⟩ :: stays)
        (delay :: delays)

namespace Paced

/-- There is a delay between any two attempts and none after the last one. -/
theorem length_stays
    (paced : Paced script attempt now stays delays) :
    stays.length = delays.length + 1 := by
  induction paced with
  | last => rfl
  | goOn delay rest inductionHypothesis =>
      rw [List.length_cons, inductionHypothesis, List.length_cons]

theorem map_attempt
    (paced : Paced script attempt now stays delays) :
    stays.map Stay.attempt = List.range' attempt stays.length := by
  induction paced with
  | last => rfl
  | goOn delay rest inductionHypothesis =>
      rw [List.map_cons, inductionHypothesis, List.length_cons, List.range'_succ]

/-- The first attempt begins at once. -/
theorem start_of_head
    {stay : Stay}
    (paced : Paced script attempt now stays delays)
    (first : stays[0]? = some stay) :
    stay.start = now := by
  cases paced <;> cases first <;> rfl

/-- An attempt begins when the delay before it is over. -/
theorem start_eq
    {place : Nat}
    {stay following : Stay}
    {delay : Duration}
    (paced : Paced script attempt now stays delays)
    (before : stays[place]? = some stay)
    (after : stays[place + 1]? = some following)
    (between : delays[place]? = some delay) :
    following.start = stay.finish + delay.timerMilliseconds := by
  induction paced generalizing place with
  | last => cases between
  | goOn delay rest inductionHypothesis =>
      cases place with
      | zero =>
          cases before
          cases between
          exact rest.start_of_head after
      | succ place => exact inductionHypothesis before after between

/-- The last attempt is over after the time of all attempts and delays. -/
theorem finish_eq
    (paced : Paced script attempt now stays delays) :
    stays.getLast?.map Stay.finish =
      some (now + ((List.range' attempt stays.length).map fun attempt => (script attempt).1).sum +
        (delays.map Duration.timerMilliseconds).sum) := by
  induction paced with
  | last => rfl
  | @goOn attempt now stays delays delay rest inductionHypothesis =>
      have nonempty : stays ≠ [] := by
        have := rest.length_stays
        intro empty
        simp [empty] at this
      rw [List.getLast?_cons_of_ne_nil nonempty, inductionHypothesis, List.length_cons,
        List.range'_succ, List.map_cons, List.sum_cons, List.map_cons, List.sum_cons]
      congr 1
      omega

end Paced

/-- Delays of so many whole milliseconds at least and at most take so long in
all. -/
theorem sum_timerMilliseconds_mem_range
    {low high : Nat}
    (bounded : ∀ delay ∈ delays, .ofMilliseconds low ≤ delay ∧ delay ≤ .ofMilliseconds high) :
    delays.length * low ≤ (delays.map Duration.timerMilliseconds).sum ∧
      (delays.map Duration.timerMilliseconds).sum ≤ delays.length * high := by
  have lower : ∀ time ∈ delays.map Duration.timerMilliseconds, low ≤ time := by
    intro time member
    obtain ⟨delay, drawn, rfl⟩ := List.mem_map.mp member
    simpa using Duration.timerMilliseconds_le_timerMilliseconds (bounded delay drawn).1
  have upper : ∀ time ∈ delays.map Duration.timerMilliseconds, time ≤ high := by
    intro time member
    obtain ⟨delay, drawn, rfl⟩ := List.mem_map.mp member
    simpa using Duration.timerMilliseconds_le_timerMilliseconds (bounded delay drawn).2
  constructor
  · simpa using List.card_nsmul_le_sum _ low lower
  · simpa using List.sum_le_card_nsmul _ high upper

variable [Retryable Error] {Source : Type} [Random.Words Source] {policy : Policy}
  {classifier : Classifier} {generator : Source}

/-- A loop keeps to the pace of its attempts and delays. -/
theorem paced_runFrom
    (attempt now : Nat)
    (generator : Source) :
    Paced script attempt now
      (runFrom policy classifier script attempt now generator).stays
      (runFrom policy classifier script attempt now generator).delays := by
  fun_induction runFrom policy classifier script attempt now generator with
  | case1 attempt now generator finish stay ending decides => exact .last attempt now
  | case2 attempt now generator finish stay delay following decides _ rest inductionHypothesis =>
      exact .goOn delay inductionHypothesis

/-- The delays of a loop are all that it draws. -/
theorem draws_runFrom
    (attempt now : Nat)
    (generator : Source) :
    policy.window.draws (runFrom policy classifier script attempt now generator).delays.length
        generator =
      some ((runFrom policy classifier script attempt now generator).delays,
        (runFrom policy classifier script attempt now generator).generator) := by
  fun_induction runFrom policy classifier script attempt now generator with
  | case1 attempt now generator finish stay ending decides => rfl
  | case2 attempt now generator finish stay delay following decides _ rest inductionHypothesis =>
      obtain ⟨_, _, drawn⟩ := next_eq_backOff_iff.mp decides
      exact JitterWindow.draws_succ_eq_some_iff.mpr
        ⟨delay, following, _, drawn, inductionHypothesis, rfl⟩

/-- A loop takes the time of its attempts and of the delays between them.  Its
attempts are numbered from one, and each of them but the first begins when the
delay before it is over, at a whole millisecond.  The delays are drawn one
after the other, one fewer than there are attempts, and lie within the bounds
of the window; so do all of them together if the bounds are whole
milliseconds. -/
theorem time_is_attempts_and_delays
    (low high : Nat)
    (policy : Policy)
    (classifier : Classifier)
    (script : Nat → Nat × Attempt Value Error)
    (now : Nat)
    (generator : Source)
    (least : policy.window.least = .ofMicroseconds low)
    (most : policy.window.most = .ofMicroseconds high)
    (fits : high < 2 ^ 64) :
    let run := runFrom policy classifier script 1 now generator
    let delays := run.stays.length - 1
    let atWork := ((List.range' 1 run.stays.length).map fun attempt => (script attempt).1).sum
    let atRest := (run.delays.map Duration.timerMilliseconds).sum
    run.stays.getLast?.map Stay.finish = some (now + atWork + atRest) ∧
      run.stays.map Stay.attempt = List.range' 1 run.stays.length ∧
      (∀ (place : Nat) (stay following : Stay) (delay : Duration),
        run.stays[place]? = some stay → run.stays[place + 1]? = some following →
          run.delays[place]? = some delay →
            following.start = stay.finish + delay.timerMilliseconds) ∧
      run.delays.length = delays ∧
      policy.window.draws delays generator = some (run.delays, run.generator) ∧
      (∀ delay ∈ run.delays, policy.window.least ≤ delay ∧ delay ≤ policy.window.most) ∧
      ∀ least most : Nat, policy.window.least = .ofMilliseconds least →
        policy.window.most = .ofMilliseconds most →
          delays * least ≤ atRest ∧ atRest ≤ delays * most := by
  intro run delays atWork atRest
  have paced : Paced script 1 now run.stays run.delays := paced_runFrom 1 now generator
  have length : run.delays.length = delays := by
    have := paced.length_stays
    omega
  have drawn : policy.window.draws delays generator = some (run.delays, run.generator) := by
    rw [← length]
    exact draws_runFrom 1 now generator
  have whole : .ofMicroseconds policy.window.least.microseconds = policy.window.least := by
    rw [least, Duration.microseconds_ofMicroseconds]
  have leastFits : policy.window.least.microseconds < 2 ^ 64 := by
    have inOrder := policy.window.ordered
    rw [most, ← whole, Duration.ofMicroseconds_le_iff, Duration.microseconds_ofMicroseconds]
      at inOrder
    omega
  have inWindow : ∀ delay ∈ run.delays,
      policy.window.least ≤ delay ∧ delay ≤ policy.window.most :=
    JitterWindow.forall_mem_of_draws
      (fun _ _ _ one => JitterWindow.mem_of_draw whole leastFits one) drawn
  refine ⟨paced.finish_eq, paced.map_attempt, fun _ _ _ _ => paced.start_eq, length, drawn,
    inWindow, ?_⟩
  intro least most leastEq mostEq
  rw [leastEq, mostEq] at inWindow
  rw [← length]
  exact sum_timerMilliseconds_mem_range inWindow

/-- Two attempts that fail and a third one that returns, ten, twenty and thirty
milliseconds long, with the delays between them. -/
theorem time_is_attempts_and_delays_of_three_attempts :
    let script (attempt : Nat) : Nat × Attempt Nat Api.Error :=
      (10 * attempt, if attempt = 3 then .returned 8 else .failed (.transport "reset"))
    let run := run .standard .standard script (Random.Generator.ofSeed 7)
    let atRest := (run.delays.map Duration.timerMilliseconds).sum
    run.stays = [⟨1, 0, 10⟩, ⟨2, 51, 71⟩, ⟨3, 104, 134⟩] ∧
      run.delays = [.ofMicroseconds 40354, .ofMicroseconds 32132] ∧
      134 = 10 + 20 + 30 + atRest ∧
      2 * 25 ≤ atRest ∧ atRest ≤ 2 * 75 := by
  intro script run atRest
  have evaluated : run.stays = [⟨1, 0, 10⟩, ⟨2, 51, 71⟩, ⟨3, 104, 134⟩] ∧
      run.delays = [.ofMicroseconds 40354, .ofMicroseconds 32132] := by
    decide +kernel
  obtain ⟨stays, delays⟩ := evaluated
  obtain ⟨time, _, _, _, _, _, bounds⟩ :=
    time_is_attempts_and_delays 25000 75000 .standard .standard script 0
      (Random.Generator.ofSeed 7) rfl rfl (by decide)
  have within : (run.stays.length - 1) * 25 ≤ atRest ∧ atRest ≤ (run.stays.length - 1) * 75 :=
    bounds 25 75 rfl rfl
  change run.stays.getLast?.map Stay.finish = some (0 +
    ((List.range' 1 run.stays.length).map fun attempt => (script attempt).1).sum + atRest) at time
  rw [stays] at time within
  exact ⟨stays, delays, Option.some.inj time, within⟩

end Retry
end TenantLoad
