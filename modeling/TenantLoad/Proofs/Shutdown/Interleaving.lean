import TenantLoad.Proofs.Shutdown.Decision

/-!
# Interrupts among other steps

Between an interrupt and the look at the signal, and between the look and the
raising of it, anything may happen to the signal.  A scene still follows a
watcher that takes its interrupts at once, at the moment it looks.
-/

namespace TenantLoad
namespace Shutdown

/-! ## Handles -/

namespace Handles

variable {handles later : Handles} {handle other signal : Nat}

/-- Every handle is one of a signal. -/
def Sound (handles : Handles) : Prop :=
  ∀ ⦃handle signal : Nat⦄, handles.handles[handle]? = some signal → signal < handles.signals.size

/-- Two handles are of one signal. -/
def Shares (handles : Handles) (handle other : Nat) : Prop :=
  handle < handles.handles.size ∧ handles.handles[handle]? = handles.handles[other]?

instance (handles : Handles) (handle other : Nat) : Decidable (handles.Shares handle other) :=
  inferInstanceAs (Decidable (_ ∧ _))

/-- What becomes of handles: they stay handles of their signals, and what is raised stays so. -/
structure Continues (handles later : Handles) : Prop where
  signal :
    ∀ ⦃handle signal : Nat⦄,
      handles.handles[handle]? = some signal → later.handles[handle]? = some signal
  raised : ∀ ⦃handle : Nat⦄, handles.isRaised handle = true → later.isRaised handle = true

theorem Continues.refl (handles : Handles) : handles.Continues handles :=
  ⟨fun _ _ => id, fun _ => id⟩

theorem Continues.trans
    {latest : Handles}
    (first : handles.Continues later)
    (second : later.Continues latest) :
    handles.Continues latest :=
  ⟨fun _ _ isHandle => second.signal (first.signal isHandle),
    fun _ isHigh => second.raised (first.raised isHigh)⟩

theorem Continues.size_le
    (continues : handles.Continues later) :
    handles.handles.size ≤ later.handles.size := by
  apply Nat.le_of_not_lt
  intro fewer
  have kept := continues.signal (Array.getElem?_eq_getElem fewer)
  simp at kept

theorem sound_single : single.Sound := by
  intro handle signal isHandle
  obtain ⟨inBounds, isZero⟩ := Array.getElem?_eq_some_iff.mp isHandle
  have isFirst : handle = 0 := Nat.lt_one_iff.mp inBounds
  subst isFirst
  subst isZero
  exact Nat.one_pos

/-- A handle sees that its signal is raised. -/
theorem isRaised_iff :
    handles.isRaised handle = true ↔
      ∃ signal, handles.handles[handle]? = some signal ∧ handles.signals[signal]? = some true := by
  unfold isRaised
  cases handles.handles[handle]? with
  | none => simp
  | some signal =>
      cases found : handles.signals[signal]? <;> simp [found]

theorem Shares.isRaised_eq
    (shares : handles.Shares handle other) :
    handles.isRaised handle = handles.isRaised other := by
  simp only [isRaised, shares.2]

theorem Shares.raise_eq
    (shares : handles.Shares handle other) :
    handles.raise handle = handles.raise other := by
  simp only [raise, setRaised, shares.2]

/-! ### Raising -/

theorem handles_raise (handles : Handles) (handle : Nat) :
    (handles.raise handle).handles = handles.handles := by
  unfold raise setRaised
  split <;> rfl

theorem signals_raise (isHandle : handles.handles[handle]? = some signal) :
    (handles.raise handle).signals = handles.signals.setIfInBounds signal true := by
  simp only [raise, setRaised, isHandle]

/-- Raising a raised signal changes nothing. -/
theorem raise_of_isRaised
    (isHigh : handles.isRaised handle = true) :
    handles.raise handle = handles := by
  obtain ⟨signal, isHandle, already⟩ := isRaised_iff.mp isHigh
  have unchanged : handles.signals.setIfInBounds signal true = handles.signals := by
    apply Array.ext_getElem?
    intro index
    rw [Array.getElem?_setIfInBounds]
    split
    · next same => rw [← same, already, if_pos (Array.getElem?_eq_some_iff.mp already).1]
    · rfl
  simp only [raise, setRaised, isHandle, unchanged]

theorem sound_raise
    (sound : handles.Sound)
    (handle : Nat) :
    (handles.raise handle).Sound := by
  intro other signal isHandle
  rw [handles_raise] at isHandle
  have inBounds := sound isHandle
  cases found : handles.handles[handle]? with
  | none => simpa only [raise, setRaised, found] using inBounds
  | some _ => simpa only [signals_raise found, Array.size_setIfInBounds] using inBounds

/-- Exactly the handles of a signal see that it is raised. -/
theorem isRaised_raise_iff
    (sound : handles.Sound)
    (isHandle : handle < handles.handles.size) :
    (handles.raise handle).isRaised other = true ↔
      handles.isRaised other = true ∨ handles.Shares handle other := by
  have own := Array.getElem?_eq_getElem isHandle
  have inBounds := sound own
  rw [isRaised_iff, isRaised_iff, handles_raise, signals_raise own]
  constructor
  · rintro ⟨signal, isOther, isHigh⟩
    by_cases same : handles.handles[handle] = signal
    · exact .inr ⟨isHandle, by rw [own, isOther, same]⟩
    · rw [Array.getElem?_setIfInBounds_ne same] at isHigh
      exact .inl ⟨signal, isOther, isHigh⟩
  · rintro (⟨signal, isOther, isHigh⟩ | ⟨-, same⟩)
    · refine ⟨signal, isOther, ?_⟩
      rw [Array.getElem?_setIfInBounds]
      split
      · rfl
      · exact isHigh
    · exact ⟨_, same.symm.trans own, Array.getElem?_setIfInBounds_self_of_lt inBounds⟩

theorem isRaised_raise
    (sound : handles.Sound)
    (isHandle : handle < handles.handles.size) :
    (handles.raise handle).isRaised handle = true :=
  (isRaised_raise_iff sound isHandle).mpr (.inr ⟨isHandle, rfl⟩)

theorem continues_raise
    (sound : handles.Sound)
    (isHandle : handle < handles.handles.size) :
    handles.Continues (handles.raise handle) :=
  ⟨fun _ _ kept => by rwa [handles_raise],
    fun _ isHigh => (isRaised_raise_iff sound isHandle).mpr (.inl isHigh)⟩

/-! ### More handles -/

theorem sound_clone
    (sound : handles.Sound)
    (isHandle : handle < handles.handles.size) :
    (handles.clone handle).Sound := by
  intro other signal isOther
  have own := Array.getElem?_eq_getElem isHandle
  simp only [clone, own, Option.getD_some, Array.getElem?_push] at isOther
  split at isOther
  · cases isOther
    exact sound own
  · exact sound isOther

/-- A clone is a handle of the same signal. -/
theorem shares_clone
    (isHandle : handle < handles.handles.size) :
    (handles.clone handle).Shares handle handles.handles.size := by
  have own := Array.getElem?_eq_getElem isHandle
  refine ⟨?_, ?_⟩
  · simp only [clone, Array.size_push]
    omega
  · simp only [clone, own, Option.getD_some, Array.getElem?_push_size]
    rw [Array.getElem?_push_lt isHandle]

theorem getElem?_handles_clone
    (isOther : other < handles.handles.size)
    (handle : Nat) :
    (handles.clone handle).handles[other]? = handles.handles[other]? := by
  simp only [clone, Array.getElem?_push]
  exact if_neg (Nat.ne_of_lt isOther)

/-- Cloning a handle raises nothing. -/
theorem isRaised_clone
    (isOther : other < handles.handles.size)
    (handle : Nat) :
    (handles.clone handle).isRaised other = handles.isRaised other := by
  simp only [isRaised, getElem?_handles_clone isOther]
  rfl

theorem sound_add (sound : handles.Sound) : handles.add.Sound := by
  intro other signal isOther
  simp only [add, Array.getElem?_push, Array.size_push] at isOther ⊢
  split at isOther
  · cases isOther
    exact Nat.lt_succ_self _
  · exact Nat.lt_succ_of_lt (sound isOther)

theorem getElem?_handles_add
    (isOther : other < handles.handles.size) :
    handles.add.handles[other]? = handles.handles[other]? := by
  simp only [add, Array.getElem?_push]
  exact if_neg (Nat.ne_of_lt isOther)

/-- A signal of its own raises nothing. -/
theorem isRaised_add
    (sound : handles.Sound)
    (isOther : other < handles.handles.size) :
    handles.add.isRaised other = handles.isRaised other := by
  have own := Array.getElem?_eq_getElem isOther
  simp only [isRaised, getElem?_handles_add isOther, own, Option.bind_some]
  simp only [add, Array.getElem?_push]
  rw [if_neg (Nat.ne_of_lt (sound own))]

/-- Handles whose signals and states are kept go on. -/
theorem continues_of_keeps
    (kept : ∀ ⦃other⦄, other < handles.handles.size →
      later.handles[other]? = handles.handles[other]?)
    (same : ∀ ⦃other⦄, other < handles.handles.size →
      later.isRaised other = handles.isRaised other) :
    handles.Continues later := by
  constructor
  · intro other signal isOther
    rw [kept (Array.getElem?_eq_some_iff.mp isOther).1, isOther]
  · intro other isHigh
    obtain ⟨signal, isOther, -⟩ := isRaised_iff.mp isHigh
    rw [same (Array.getElem?_eq_some_iff.mp isOther).1, isHigh]

end Handles

/-! ## Scenes -/

/-- Why a watcher has stopped, if it has. -/
def Place.outcome? : Place → Option Outcome
  | .stopped outcome => some outcome
  | _ => none

namespace Scene

variable {scene next start finish : Scene} {act : Act} {acts : List Act} {watcher : Watcher}

/-- The watcher has a handle, and every handle is one of a signal. -/
structure Sound (scene : Scene) : Prop where
  handles : scene.handles.Sound
  own : scene.own < scene.handles.handles.size

/-- What a step can do. -/
inductive Moves (scene : Scene) : Act → Scene → Prop where
  | interrupt
      (listening : scene.place = .listening) :
      Moves scene .interrupt { scene with place := .interrupted }
  | failure
      (listening : scene.place = .listening) :
      Moves scene .failure { scene with place := .stopped .unavailable }
  | force
      (interrupted : scene.place = .interrupted)
      (isHigh : scene.isRaised = true) :
      Moves scene .look { scene with place := .stopped .forced }
  | warn
      (interrupted : scene.place = .interrupted)
      (isLow : scene.isRaised = false) :
      Moves scene .look { scene with place := .warned }
  | heed
      (warned : scene.place = .warned) :
      Moves scene .heed
        { scene with handles := scene.handles.raise scene.own, place := .listening }
  | raise
      {handle : Nat}
      (isHandle : handle < scene.handles.handles.size) :
      Moves scene (.raise handle) { scene with handles := scene.handles.raise handle }
  | clone
      {handle : Nat}
      (isHandle : handle < scene.handles.handles.size) :
      Moves scene (.clone handle) { scene with handles := scene.handles.clone handle }
  | add : Moves scene .add { scene with handles := scene.handles.add }

theorem moves_of_act (taken : scene.act act = some next) : scene.Moves act next := by
  cases act <;>
    simp only [Scene.act, Option.ite_none_right_eq_some, Option.some.injEq] at taken
  case interrupt =>
    obtain ⟨listening, rfl⟩ := taken
    exact .interrupt listening
  case failure =>
    obtain ⟨listening, rfl⟩ := taken
    exact .failure listening
  case look =>
    obtain ⟨interrupted, rfl⟩ := taken
    cases state : scene.isRaised with
    | true => exact .force interrupted state
    | false => exact .warn interrupted state
  case heed =>
    obtain ⟨warned, rfl⟩ := taken
    exact .heed warned
  case raise handle =>
    obtain ⟨isHandle, rfl⟩ := taken
    exact .raise isHandle
  case clone handle =>
    obtain ⟨isHandle, rfl⟩ := taken
    exact .clone isHandle
  case add =>
    subst taken
    exact .add

/-- No step lowers a signal or takes a handle away. -/
theorem Moves.continues
    (moves : scene.Moves act next)
    (sound : scene.Sound) :
    scene.handles.Continues next.handles := by
  cases moves with
  | interrupt | failure | force | warn => exact .refl _
  | heed => exact Handles.continues_raise sound.handles sound.own
  | raise isHandle => exact Handles.continues_raise sound.handles isHandle
  | clone =>
      apply Handles.continues_of_keeps
      · exact fun _ isOther => Handles.getElem?_handles_clone isOther _
      · exact fun _ isOther => Handles.isRaised_clone isOther _
  | add =>
      apply Handles.continues_of_keeps
      · exact fun _ isOther => Handles.getElem?_handles_add isOther
      · exact fun _ isOther => Handles.isRaised_add sound.handles isOther

theorem Moves.sound
    (moves : scene.Moves act next)
    (sound : scene.Sound) :
    next.Sound := by
  have hasHandle : scene.own < next.handles.handles.size :=
    Nat.lt_of_lt_of_le sound.own (moves.continues sound).size_le
  cases moves with
  | interrupt | failure | force | warn => exact ⟨sound.handles, sound.own⟩
  | heed => exact ⟨Handles.sound_raise sound.handles _, hasHandle⟩
  | raise => exact ⟨Handles.sound_raise sound.handles _, hasHandle⟩
  | clone isHandle => exact ⟨Handles.sound_clone sound.handles isHandle, hasHandle⟩
  | add => exact ⟨Handles.sound_add sound.handles, hasHandle⟩

/-! ### The watcher a scene follows -/

/-- What a step is to a watcher that takes an interrupt when it looks at the signal. -/
def event? (scene : Scene) : Act → Option Event
  | .look => some .interrupt
  | .failure => some .failure
  | .raise handle => if scene.handles.Shares handle scene.own then some .raise else none
  | _ => none

def events : Scene → List Act → List Event
  | _, [] => []
  | scene, act :: acts =>
    (scene.event? act).toList ++ (scene.act act).elim [] fun next => next.events acts

/-- The waits for the source that have ended. -/
def waits (acts : List Act) : Nat := acts.count .interrupt + acts.count .failure

/-- A scene and a watcher agree; the scene may be behind in raising the signal and in looking
at it. -/
structure Follows (scene : Scene) (waited : Nat) (watcher : Watcher) : Prop where
  outcome : watcher.outcome = scene.place.outcome?
  raised : watcher.raised = (scene.isRaised || decide (scene.place = .warned))
  taken : waited = watcher.taken + if scene.place = .interrupted then 1 else 0

theorem isRaised_heed
    (sound : scene.Sound) :
    isRaised { scene with handles := scene.handles.raise scene.own, place := .listening } = true :=
  Handles.isRaised_raise sound.handles sound.own

theorem Moves.follows
    {waited : Nat}
    (moves : scene.Moves act next)
    (sound : scene.Sound)
    (follows : scene.Follows waited watcher) :
    next.Follows (waited + waits [act]) (watcher.run (scene.event? act).toList) := by
  obtain ⟨outcome, raised, taken⟩ := follows
  -- A watcher that finds the signal low has raised it at once; the scene does so when it heeds.
  cases moves with
  | interrupt listening =>
      simp only [listening] at outcome raised taken
      exact ⟨outcome, raised, congrArg (· + 1) taken⟩
  | failure listening =>
      simp only [listening, Place.outcome?] at outcome raised taken
      change Follows _ _ (watcher.step .failure)
      simp only [Watcher.step, outcome]
      exact ⟨rfl, raised, congrArg (· + 1) taken⟩
  | force interrupted isHigh =>
      simp only [interrupted, isHigh, Place.outcome?] at outcome raised taken
      change Follows _ _ (watcher.step .interrupt)
      simp only [Watcher.step, outcome, raised, Bool.true_or, if_true]
      have stays : isRaised { scene with place := .stopped .forced } = true := isHigh
      exact ⟨rfl, by rw [stays, Bool.true_or], taken⟩
  | warn interrupted isLow =>
      simp only [interrupted, isLow, Place.outcome?, reduceCtorEq, decide_false, Bool.or_false]
        at outcome raised taken
      change Follows _ _ (watcher.step .interrupt)
      simp only [Watcher.step, outcome, raised, Bool.false_eq_true, if_false]
      exact ⟨rfl, by rw [decide_eq_true rfl, Bool.or_true], taken⟩
  | heed warned =>
      simp only [warned, Place.outcome?, decide_true, Bool.or_true] at outcome raised taken
      exact ⟨outcome, raised.trans (by rw [isRaised_heed sound, Bool.true_or]), taken⟩
  | @raise handle isHandle =>
      have seen : isRaised { scene with handles := scene.handles.raise handle } = true ↔
          scene.isRaised = true ∨ scene.handles.Shares handle scene.own :=
        Handles.isRaised_raise_iff sound.handles isHandle
      by_cases shares : scene.handles.Shares handle scene.own
      · simp only [event?, if_pos shares, Option.toList_some]
        change Follows _ _ (watcher.step .raise)
        have isHigh : isRaised { scene with handles := scene.handles.raise handle } = true :=
          seen.mpr (.inr shares)
        exact ⟨outcome, by rw [isHigh, Bool.true_or, Watcher.step], taken⟩
      · simp only [event?, if_neg shares, Option.toList_none]
        have same :
            isRaised { scene with handles := scene.handles.raise handle } = scene.isRaised :=
          Bool.eq_iff_iff.mpr (seen.trans (or_iff_left shares))
        exact ⟨outcome, raised.trans (by rw [same]), taken⟩
  | @clone handle isHandle =>
      have same : isRaised { scene with handles := scene.handles.clone handle } = scene.isRaised :=
        Handles.isRaised_clone sound.own handle
      exact ⟨outcome, raised.trans (by rw [same]), taken⟩
  | add =>
      have same : isRaised { scene with handles := scene.handles.add } = scene.isRaised :=
        Handles.isRaised_add sound.handles sound.own
      exact ⟨outcome, raised.trans (by rw [same]), taken⟩

/-! ### Runs -/

theorem run_cons_eq_some_iff :
    scene.run (act :: acts) = some finish ↔
      ∃ next, scene.act act = some next ∧ next.run acts = some finish := by
  simp [run, List.foldlM_cons, Option.bind_eq_some_iff]

theorem sound_of_run
    (sound : start.Sound)
    (ran : start.run acts = some finish) :
    finish.Sound := by
  induction acts generalizing start with
  | nil =>
      cases ran
      exact sound
  | cons act acts inductionHypothesis =>
      obtain ⟨next, taken, ran⟩ := run_cons_eq_some_iff.mp ran
      exact inductionHypothesis ((moves_of_act taken).sound sound) ran

theorem continues_of_run
    (sound : start.Sound)
    (ran : start.run acts = some finish) :
    start.handles.Continues finish.handles := by
  induction acts generalizing start with
  | nil =>
      cases ran
      exact .refl _
  | cons act acts inductionHypothesis =>
      obtain ⟨next, taken, ran⟩ := run_cons_eq_some_iff.mp ran
      have moves := moves_of_act taken
      exact (moves.continues sound).trans (inductionHypothesis (moves.sound sound) ran)

theorem follows_of_run
    {waited : Nat}
    (sound : start.Sound)
    (ran : start.run acts = some finish)
    (follows : start.Follows waited watcher) :
    finish.Follows (waited + waits acts) (watcher.run (start.events acts)) := by
  induction acts generalizing start waited watcher with
  | nil =>
      cases ran
      exact follows
  | cons act acts inductionHypothesis =>
      obtain ⟨next, taken, ran⟩ := run_cons_eq_some_iff.mp ran
      have moves := moves_of_act taken
      have rest := inductionHypothesis (moves.sound sound) ran (moves.follows sound follows)
      have total : waits [act] + waits acts = waits (act :: acts) := by
        simp only [waits, ← List.singleton_append (l := acts), List.count_append]
        omega
      rw [Nat.add_assoc, total, ← Watcher.run_append] at rest
      simpa only [events, taken, Option.elim_some] using rest

/-- A scene whose watcher listens at first follows a watcher of what happens in it. -/
theorem follows_of_listening
    (sound : start.Sound)
    (listening : start.place = .listening)
    (ran : start.run acts = some finish) :
    finish.Follows (waits acts) (Watcher.run { raised := start.isRaised } (start.events acts)) := by
  have follows : start.Follows 0 { raised := start.isRaised } := by
    constructor <;> simp [listening, Place.outcome?]
  simpa using follows_of_run sound ran follows

theorem Follows.place_eq_stopped_iff
    {waited : Nat}
    {outcome : Outcome}
    (follows : scene.Follows waited watcher) :
    scene.place = .stopped outcome ↔ watcher.outcome = some outcome := by
  rw [follows.outcome]
  cases scene.place <;> simp [Place.outcome?]

/-- The look at the signal that an interrupt still waits for is counted as well. -/
theorem waits_le_two
    {raised : Bool}
    {events : List Event}
    {waited : Nat}
    (follows : scene.Follows waited (Watcher.run { raised } events)) :
    waited ≤ 2 := by
  rw [follows.taken]
  split
  · next interrupted =>
      have undecided : Undecided raised events := by
        rw [← Watcher.outcome_run_eq_none_iff, follows.outcome, interrupted]
        rfl
      rw [Watcher.run_of_undecided undecided]
      exact Nat.succ_le_succ (Watcher.count_le_one undecided)
  · exact Watcher.taken_run_le_two raised events

/-! ### Interrupts -/

/-- How a watcher that listens at the start has watched interrupts. -/
structure WatchesInterrupts (start : Scene) (acts : List Act) (finish : Scene) : Prop where
  /-- It is stopped by the first failure, or by the first interrupt that finds the signal raised. -/
  stopped :
    ∀ outcome, finish.place = .stopped outcome ↔
      ∃ before event after, start.events acts = before ++ event :: after ∧
        Undecided start.isRaised before ∧ Decides start.isRaised before event outcome
  /-- Its source is asked twice at most, failures included. -/
  waited : waits acts ≤ 2
  /-- Its signal is raised, or about to be, if it was at first, if something else has raised it,
  or if an interrupt came before the watcher was decided. -/
  raised :
    finish.isRaised = true ∨ finish.place = .warned ↔
      start.isRaised = true ∨ .raise ∈ start.events acts ∨
        ∃ before after, start.events acts = before ++ .interrupt :: after ∧
          Undecided start.isRaised before
  /-- An interrupt that finds the signal not raised is heeded. -/
  warned :
    finish.place = .interrupted → finish.isRaised = false →
      finish.act .look = some { finish with place := .warned }
  /-- Nothing keeps the watcher from raising the signal then, and it listens again. -/
  heeded :
    finish.place = .warned →
      (∀ act next, finish.act act = some next → act = .heed ∨ next.place = .warned) ∧
      ∃ next, finish.act .heed = some next ∧ next.isRaised = true ∧ next.place = .listening
  failed : ∀ next, finish.act .failure = some next → next.handles = finish.handles
  /-- No signal is lowered, and handles of one signal stay so. -/
  continues : start.handles.Continues finish.handles
  /-- Raising a signal is seen by the handles of that signal. -/
  seen :
    ∀ handle other, handle < finish.handles.handles.size →
      ((finish.handles.raise handle).isRaised other = true ↔
        finish.handles.isRaised other = true ∨ finish.handles.Shares handle other)
  /-- All handles of a signal are alike, and raising it again by any of them changes nothing. -/
  alike :
    ∀ handle other, finish.handles.Shares handle other →
      finish.handles.isRaised handle = finish.handles.isRaised other ∧
      finish.handles.raise handle = finish.handles.raise other ∧
      (finish.handles.isRaised handle = true → finish.handles.raise other = finish.handles)
  cloned :
    ∀ handle < finish.handles.handles.size,
      (finish.handles.clone handle).Shares handle finish.handles.handles.size

end Scene

open Scene in
/-- Interrupts are watched, whatever else is done between any two steps of the watcher. -/
theorem interrupts_are_watched
    {start finish : Scene}
    {acts : List Act}
    (sound : start.Sound)
    (listening : start.place = .listening)
    (ran : start.run acts = some finish) :
    start.WatchesInterrupts acts finish := by
  have follows := follows_of_listening sound listening ran
  have soundAfter := sound_of_run sound ran
  refine
    { stopped := ?_, waited := waits_le_two follows, raised := ?_, warned := ?_, heeded := ?_,
      failed := ?_, continues := continues_of_run sound ran, seen := ?_, alike := ?_,
      cloned := ?_ }
  · intro outcome
    rw [follows.place_eq_stopped_iff, Watcher.outcome_run_eq_some_iff]
  · rw [← Watcher.raised_run_iff, follows.raised, Bool.or_eq_true, decide_eq_true_eq]
  · intro interrupted isLow
    simp [act, interrupted, isLow]
  · intro warned
    constructor
    · intro act next taken
      cases moves_of_act taken <;> simp_all
    · exact ⟨_, if_pos warned, isRaised_heed soundAfter, rfl⟩
  · intro next taken
    cases moves_of_act taken
    rfl
  · intro handle other isHandle
    exact Handles.isRaised_raise_iff soundAfter.handles isHandle
  · intro handle other shares
    refine ⟨shares.isRaised_eq, shares.raise_eq, ?_⟩
    intro isHigh
    rw [← shares.raise_eq, Handles.raise_of_isRaised isHigh]
  · intro handle isHandle
    exact Handles.shares_clone isHandle

/-- A clone raises the signal while the watcher is about to, and a second interrupt stops it. -/
theorem interrupts_are_watched_beside_a_clone :
    Scene.WatchesInterrupts
      { handles := .single, own := 0, place := .listening }
      [.interrupt, .clone 0, .look, .raise 1, .heed, .interrupt, .look]
      { handles := ⟨#[true], #[0, 0]⟩, own := 0, place := .stopped .forced } :=
  interrupts_are_watched ⟨Handles.sound_single, by decide⟩ rfl (by decide)

end Shutdown
end TenantLoad
