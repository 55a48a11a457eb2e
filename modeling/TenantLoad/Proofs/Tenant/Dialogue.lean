import TenantLoad.Proofs.Tenant.Effects

/-!
# Calls and their answers

An item makes one call after the other, each once the one before it has ended.
`Dialogue` is the trace that this leaves, with the results of all attempts so
far.  The calls of a step are those of its items: `Paced` counts how many of
them are under way at a time, and `Account` is all that is known of the
effects of a step.
-/

namespace TenantLoad
namespace Tenant

/-- The effects of an item, with the results of its attempts so far and whether
another one is under way. -/
inductive Dialogue (task : Task) (item : Option Nat) (errand : Errand) :
    List Effect → List Api.Attempt → Bool → Prop
  | silent : Dialogue task item errand [] [] false
  | asks
      {thread : List Effect}
      {results : List Api.Attempt}
      (soFar : Dialogue task item errand thread results false) :
      Dialogue task item errand
        (thread ++ [.call ⟨task, item, results.length + 1⟩ errand.call]) results true
  | hears
      {thread : List Effect}
      {results : List Api.Attempt}
      (duration : Metrics.Millis)
      (result : Api.Attempt)
      (soFar : Dialogue task item errand thread results true) :
      Dialogue task item errand
        (thread ++ returning ⟨task, item, results.length + 1⟩ errand.call duration
          (errand.note (results.length + 1)) result)
        (results ++ [result]) false

namespace Dialogue

variable {task : Task} {item : Option Nat} {errand : Errand} {thread : List Effect}
  {results : List Api.Attempt} {pending : Bool}

/-- The calls of an item are numbered from one. -/
theorem calls_eq
    (dialogue : Dialogue task item errand thread results pending) :
    calls thread =
      (List.range (results.length + pending.toNat)).map fun place =>
        (⟨task, item, place + 1⟩, errand.call) := by
  induction dialogue with
  | silent => rfl
  | asks soFar inductionHypothesis =>
      rw [calls_append, inductionHypothesis]
      simp [List.range_succ, Effect.call?]
  | hears duration result soFar inductionHypothesis =>
      rw [calls_append, inductionHypothesis]
      simp

/-- The attempts of an item that have ended are the first ones, in order. -/
theorem endings_eq
    (dialogue : Dialogue task item errand thread results pending) :
    endings thread =
      results.mapIdx fun place result => (⟨task, item, place + 1⟩, errand.call, result) := by
  induction dialogue with
  | silent => rfl
  | asks soFar inductionHypothesis =>
      rw [endings_append, inductionHypothesis]
      simp [Effect.ended?]
  | hears duration result soFar inductionHypothesis =>
      rw [endings_append, inductionHypothesis, endings_returning, List.mapIdx_concat]

/-- Every attempt of an item is the end of a call. -/
theorem mem_endings
    {place : Nat}
    (dialogue : Dialogue task item errand thread results pending)
    (within : place < results.length) :
    (⟨task, item, place + 1⟩, errand.call, results[place]) ∈ endings thread := by
  rw [dialogue.endings_eq, List.mem_mapIdx]
  exact ⟨place, within, rfl⟩

/-- The calls of an item that have ended are its first ones. -/
theorem answeredCalls_eq
    (dialogue : Dialogue task item errand thread results pending) :
    answeredCalls thread =
      (List.range results.length).map fun place => (⟨task, item, place + 1⟩, errand.call) := by
  rw [answeredCalls, dialogue.endings_eq]
  refine List.ext_getElem (by simp) ?_
  intro place within inside
  simp

/-- The results of an item are how its calls ended. -/
theorem map_result_eq
    (dialogue : Dialogue task item errand thread results pending) :
    (endings thread).map (fun ending => ending.2.2) = results := by
  rw [dialogue.endings_eq]
  exact List.ext_getElem (by simp) (by simp)

end Dialogue

/-! ## Calls under way -/

/-- So many calls are under way after the effects, and never more than the
width. -/
structure Paced (width underWay : Nat) (effects : List Effect) : Prop where
  balance : (calls effects).length = (endings effects).length + underWay
  capped : ∀ past, past <+: effects → (calls past).length ≤ (endings past).length + width

namespace Paced

variable {width underWay : Nat} {effects : List Effect}

theorem nil (width : Nat) : Paced width 0 [] where
  balance := rfl
  capped := by
    intro past before
    rw [List.prefix_nil.mp before]
    exact Nat.zero_le _

/-- One more effect keeps the calls within the width. -/
theorem concat
    {after : Nat}
    (paced : Paced width underWay effects)
    (effect : Effect)
    (balance : underWay + (calls [effect]).length = (endings [effect]).length + after)
    (within : after ≤ width) :
    Paced width after (effects ++ [effect]) where
  balance := by
    have := paced.balance
    simp only [calls_append, endings_append, List.length_append]
    omega
  capped := by
    intro past before
    rcases List.prefix_concat_iff.mp before with rfl | earlier
    · have := paced.balance
      simp only [calls_append, endings_append, List.length_append]
      omega
    · exact paced.capped past earlier

theorem call
    (paced : Paced width underWay effects)
    (origin : Origin)
    (call : Api.Call)
    (free : underWay < width) :
    Paced width (underWay + 1) (effects ++ [.call origin call]) :=
  paced.concat _ (by simp [Effect.call?, Effect.ended?]) free

theorem returning
    (paced : Paced width (underWay + 1) effects)
    (origin : Origin)
    (call : Api.Call)
    (duration : Metrics.Millis)
    (extra : List (String × Json))
    (attempt : Api.Attempt)
    (within : underWay ≤ width) :
    Paced width underWay (effects ++ Tenant.returning origin call duration extra attempt) := by
  have ended : Paced width underWay (effects ++ [.ended origin call attempt]) :=
    paced.concat _ (by simp [Effect.call?, Effect.ended?]; omega) within
  rw [Tenant.returning, List.append_cons]
  cases measuredEntry duration extra attempt with
  | none => simpa using ended
  | some entry =>
      exact ended.concat (.record origin entry)
        (by simp [Effect.call?, Effect.ended?]) within

end Paced

/-- Effects within a width after effects that left no call under way. -/
theorem Paced.append
    {width underWay : Nat}
    {earlier later : List Effect}
    (first : Paced width 0 earlier)
    (second : Paced width underWay later) :
    Paced width underWay (earlier ++ later) where
  balance := by
    have := first.balance
    have := second.balance
    simp only [calls_append, endings_append, List.length_append]
    omega
  capped := by
    intro past before
    obtain ⟨rest, split⟩ := before
    rcases List.append_eq_append_iff.mp split with ⟨between, rfl, _⟩ | ⟨reached, rfl, rfl⟩
    · exact first.capped past (List.prefix_append past between)
    · have := first.balance
      have := second.capped reached (List.prefix_append reached rest)
      simp only [calls_append, endings_append, List.length_append]
      omega

end Tenant
end TenantLoad
