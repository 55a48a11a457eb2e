import TenantLoad.Proofs.Retry.Elapsed

/-!
# The reference of a retry loop

Which attempt of a loop is the last one, and how the loop ends, can be read off
its script: the first attempt within the budget that returns, crashes or fails
fatally is the last one, and the last one of the budget if there is none.  A
loop that can draw its delays does what its script says, and a larger budget
makes a difference only to a loop that has exhausted its own.
-/

namespace TenantLoad
namespace Retry

variable {Value Error : Type} [Retryable Error]

namespace Attempt

/-- Whether an attempt is the last one whatever the budget. -/
def isFinal (classifier : Classifier) : Attempt Value Error → Bool
  | .returned _ => true
  | .failed error => Retryable.verdict classifier error = .fatal
  | .crashed _ => true

/-- The ending of a loop whose last attempt has the given number. -/
def ending (classifier : Classifier) (number : Nat) : Attempt Value Error → Ending Value Error
  | .returned value => .succeeded value number
  | .failed error =>
    match Retryable.verdict classifier error with
    | .fatal => .failed (.fatal number error)
    | .retry => .failed (.exhausted number error)
  | .crashed message => .crashed message

end Attempt

/-- Whether a loop ended because its budget was used up. -/
def Ending.isExhausted : Ending Value Error → Bool
  | .failed (.exhausted ..) => true
  | _ => false

/-- The last attempt of a loop that starts with the given one: the first final
one within the budget, or the last one of the budget. -/
def lastFrom (budget : Nat) (classifier : Classifier)
    (script : Nat → Nat × Attempt Value Error) (attempt : Nat) : Nat :=
  ((List.range' attempt (budget + 1 - attempt)).find? fun number =>
    (script number).2.isFinal classifier).getD budget

variable {Source : Type} [Random.Words Source] {policy : Policy} {classifier : Classifier}
  {script : Nat → Nat × Attempt Value Error} {budget attempt : Nat} {generator : Source}

/-! ## The last attempt -/

theorem lastFrom_of_isFinal
    (affordable : attempt ≤ budget)
    (final : (script attempt).2.isFinal classifier = true) :
    lastFrom budget classifier script attempt = attempt := by
  simp only [lastFrom, Nat.succ_sub affordable, List.range'_succ, List.find?_cons, final,
    Option.getD_some]

theorem lastFrom_succ
    (affordable : attempt ≤ budget)
    (goesOn : (script attempt).2.isFinal classifier = false) :
    lastFrom budget classifier script (attempt + 1) =
      lastFrom budget classifier script attempt := by
  rw [lastFrom, lastFrom, Nat.succ_sub affordable, List.range'_succ,
    List.find?_cons_of_neg (by simp [goesOn]), Nat.add_sub_add_right]

/-- The attempt that uses up the budget is the last one. -/
theorem lastFrom_budget :
    lastFrom budget classifier script budget = budget := by
  cases final : (script budget).2.isFinal classifier with
  | true => exact lastFrom_of_isFinal (Nat.le_refl _) final
  | false =>
      rw [← lastFrom_succ (Nat.le_refl _) final, lastFrom, Nat.sub_self]
      rfl

theorem lastFrom_mem_range
    (affordable : attempt ≤ budget) :
    attempt ≤ lastFrom budget classifier script attempt ∧
      lastFrom budget classifier script attempt ≤ budget := by
  unfold lastFrom
  cases found : (List.range' attempt (budget + 1 - attempt)).find? fun number =>
      (script number).2.isFinal classifier with
  | none => exact ⟨affordable, Nat.le_refl _⟩
  | some number =>
      have member := List.mem_range'_1.mp (List.mem_of_find?_eq_some found)
      rw [Option.getD_some]
      omega

/-! ## The loop -/

/-- With a delay to draw, a loop settles after a final attempt and after the
last one of its budget, with the ending of that attempt. -/
theorem next_eq_settle_iff
    {result : Attempt Value Error}
    {ending : Ending Value Error}
    (drawable : (policy.window.draw generator).isSome = true) :
    next policy classifier attempt generator result = .settle ending ↔
      (result.isFinal classifier = true ∨ policy.budget ≤ attempt) ∧
        result.ending classifier attempt = ending := by
  obtain ⟨drawn, draws⟩ := Option.isSome_iff_exists.mp drawable
  cases result with
  | returned value => simp [next, Attempt.isFinal, Attempt.ending]
  | crashed message => simp [next, Attempt.isFinal, Attempt.ending]
  | failed error =>
      cases verdict : Retryable.verdict classifier error with
      | fatal => simp [next, Attempt.isFinal, Attempt.ending, verdict]
      | retry =>
          by_cases spent : policy.budget ≤ attempt <;>
            simp [next, Attempt.isFinal, Attempt.ending, verdict, spent, draws]

/-- A loop goes on only after an attempt that is not final. -/
theorem isFinal_eq_false_of_next_eq_backOff
    {result : Attempt Value Error}
    {delay : Duration}
    {following : Source}
    (decides : next policy classifier attempt generator result = .backOff delay following) :
    result.isFinal classifier = false := by
  obtain ⟨⟨error, rfl, verdict⟩, _⟩ := next_eq_backOff_iff.mp decides
  simp [Attempt.isFinal, verdict]

/-- A loop that can draw its delays ends after the last attempt of its script,
with the ending of that attempt. -/
theorem runFrom_follows_script
    (attempt now : Nat)
    (generator : Source)
    (affordable : attempt ≤ policy.budget)
    (drawable : (policy.window.draw generator).isSome = true) :
    let run := runFrom policy classifier script attempt now generator
    let last := lastFrom policy.budget classifier script attempt
    attempt + run.stays.length = last + 1 ∧
      run.ending = (script last).2.ending classifier last := by
  fun_induction runFrom policy classifier script attempt now generator with
  | case1 attempt now generator finish stay ending decides =>
      obtain ⟨last, rfl⟩ := (next_eq_settle_iff drawable).mp decides
      have here : lastFrom policy.budget classifier script attempt = attempt := by
        rcases last with final | spent
        · exact lastFrom_of_isFinal affordable final
        · obtain rfl := Nat.le_antisymm affordable spent
          exact lastFrom_budget
      simp only [here, List.length_singleton, and_self]
  | case2 attempt now generator finish stay delay following decides _ rest inductionHypothesis =>
      obtain ⟨_, left, _⟩ := next_eq_backOff_iff.mp decides
      have further := lastFrom_succ affordable (isFinal_eq_false_of_next_eq_backOff decides)
      obtain ⟨length, ending⟩ := inductionHypothesis left
        (JitterWindow.isSome_draw_of_isSome_draw drawable following)
      rw [further] at length ending
      exact ⟨by rw [List.length_cons, ← length, Nat.add_right_comm, Nat.add_assoc], ending⟩

/-! ## Larger budgets -/

/-- With a larger budget a loop decides the same unless its budget was used
up. -/
theorem next_eq_settle_of_budget_le
    {more : Policy}
    {result : Attempt Value Error}
    {ending : Ending Value Error}
    (larger : policy.budget ≤ more.budget)
    (window : more.window = policy.window)
    (left : ending.isExhausted = false)
    (decides : next policy classifier attempt generator result = .settle ending) :
    next more classifier attempt generator result = .settle ending := by
  cases result with
  | returned value => exact decides
  | crashed message => exact decides
  | failed error =>
      simp only [next, window] at decides ⊢
      cases verdict : Retryable.verdict classifier error with
      | fatal => simpa only [verdict] using decides
      | retry =>
          simp only [verdict] at decides
          by_cases spent : policy.budget ≤ attempt
          · rw [if_pos spent] at decides
            cases decides
            cases left
          · rw [if_neg spent] at decides
            rwa [if_neg]
            omega

/-- A larger budget changes nothing about a loop that did not exhaust its own. -/
theorem runFrom_eq_of_budget_le
    {more : Policy}
    (larger : policy.budget ≤ more.budget)
    (window : more.window = policy.window)
    (attempt now : Nat)
    (generator : Source)
    (left : (runFrom policy classifier script attempt now generator).ending.isExhausted = false) :
    runFrom more classifier script attempt now generator =
      runFrom policy classifier script attempt now generator := by
  fun_induction runFrom policy classifier script attempt now generator with
  | case1 attempt now generator finish stay ending decides =>
      exact runFrom_of_settle now (next_eq_settle_of_budget_le larger window left decides)
  | case2 attempt now generator finish stay delay following decides _ rest inductionHypothesis =>
      obtain ⟨worth, within, drawn⟩ := next_eq_backOff_iff.mp decides
      have decidesToo : next more classifier attempt generator (script attempt).2 =
          .backOff delay following :=
        next_eq_backOff_iff.mpr ⟨worth, by omega, by rwa [window]⟩
      rw [runFrom_of_backOff now decidesToo, inductionHypothesis left]

/-! ## The whole run -/

/-- A loop that can draw its delays makes the attempts from the first to the
last one of its script, in order, none of them numbered beyond 32 bits, and
ends as the last one says.  It draws one delay before every attempt but the
first and none after the last one.  A larger budget changes nothing unless the
budget was used up. -/
theorem run_follows_script
    (policy : Policy)
    (classifier : Classifier)
    (script : Nat → Nat × Attempt Value Error)
    (now : Nat)
    (generator : Source)
    (drawable : (policy.window.draw generator).isSome = true) :
    let run := runFrom policy classifier script 1 now generator
    let last := lastFrom policy.budget classifier script 1
    run.stays.map Stay.attempt = List.range' 1 last ∧
      (∀ stay ∈ run.stays, stay.attempt < 2 ^ 32) ∧
      run.ending = (script last).2.ending classifier last ∧
      run.delays.length = last - 1 ∧
      policy.window.draws (last - 1) generator = some (run.delays, run.generator) ∧
      (∀ (place : Nat) (stay following : Stay) (delay : Duration),
        run.stays[place]? = some stay → run.stays[place + 1]? = some following →
          run.delays[place]? = some delay →
            following.start = stay.finish + delay.timerMilliseconds) ∧
      ∀ more : Policy, more.window = policy.window → policy.maxAttempts ≤ more.maxAttempts →
        run.ending.isExhausted = false →
          runFrom more classifier script 1 now generator = run := by
  intro run last
  have paced : Paced script 1 now run.stays run.delays := paced_runFrom 1 now generator
  have within : 1 ≤ last ∧ last ≤ policy.budget := lastFrom_mem_range policy.one_le_budget
  have fits := policy.budget_lt
  obtain ⟨count, ending⟩ : 1 + run.stays.length = last + 1 ∧
      run.ending = (script last).2.ending classifier last :=
    runFrom_follows_script 1 now generator policy.one_le_budget drawable
  have length : run.stays.length = last := by omega
  have numbered : run.stays.map Stay.attempt = List.range' 1 last := by
    rw [← length]
    exact paced.map_attempt
  have between : run.delays.length = last - 1 := by
    have := paced.length_stays
    omega
  refine ⟨numbered, ?_, ending, between, ?_, fun _ _ _ _ => paced.start_eq, ?_⟩
  · intro stay member
    have inRange : stay.attempt ∈ List.range' 1 last := by
      rw [← numbered]
      exact List.mem_map_of_mem member
    have := (List.mem_range'_1.mp inRange).2
    omega
  · rw [← between]
    exact draws_runFrom 1 now generator
  · intro more window larger left
    refine runFrom_eq_of_budget_le ?_ window 1 now generator left
    exact max_le_max (Nat.le_refl 1) (UInt32.le_iff_toNat_le.mp larger)

/-- A fatal failure in the last attempt of the budget does not count as
exhausted, and the largest budget makes no difference to it. -/
theorem run_follows_script_to_a_fatal_end :
    let gone : Api.Error := .rejected 404 "gone"
    let script (attempt : Nat) : Nat × Attempt Nat Api.Error :=
      (0, .failed (if attempt = 3 then gone else .transport "reset"))
    let run (budget : UInt32) :=
      runFrom ⟨budget, .standard⟩ .standard script 1 0 (Random.Generator.ofSeed 7)
    (run 3).stays.map Stay.attempt = [1, 2, 3] ∧
      (run 3).ending = .failed (.fatal 3 gone) ∧
      (run 3).delays.length = 2 ∧
      run 0xffffffff = run 3 := by
  intro gone script run
  have drawable : (JitterWindow.standard.draw (Random.Generator.ofSeed 7)).isSome = true :=
    JitterWindow.isSome_draw_iff.mpr (Or.inr (by decide))
  have last : lastFrom 3 .standard script 1 = 3 := by decide +kernel
  obtain ⟨numbered, _, ending, delays, _, _, larger⟩ :=
    run_follows_script ⟨3, .standard⟩ .standard script 0 (Random.Generator.ofSeed 7) drawable
  change (run 3).stays.map Stay.attempt = List.range' 1 (lastFrom 3 .standard script 1) at numbered
  change (run 3).ending = (script (lastFrom 3 .standard script 1)).2.ending .standard
    (lastFrom 3 .standard script 1) at ending
  change (run 3).delays.length = lastFrom 3 .standard script 1 - 1 at delays
  rw [last] at numbered ending delays
  have fatal : (run 3).ending = .failed (.fatal 3 gone) := by
    rw [ending]
    decide +kernel
  refine ⟨numbered, fatal, delays, larger ⟨0xffffffff, .standard⟩ rfl (by decide) ?_⟩
  change (run 3).ending.isExhausted = false
  rw [fatal]
  rfl

end Retry
end TenantLoad
