import TenantLoad.Proofs.Batch.Schedules

/-!
# Every schedule counts down

Every turn of a batch on one thread uses up more of the turns before its items
than it leaves as jobs, and the signal is raised from outside at most once.  So
before time passes only finitely many jobs run, every schedule comes to rest, and
the batch on a timeline does so within the turns that it is given.
-/

namespace TenantLoad
namespace Batch

variable {Value Error : Type}

/-- The most turns that an item has before it, with those of the dispatcher that
start it and that it wakes when it settles. -/
def Cell.turnsLeft (budget : Nat) : Cell Value Error → Nat
  | .waiting _ => 2 * budget + 2
  | .dispatched _ => 2 * budget
  | .attempting attempt _ => 2 * (budget - attempt) + 1
  | .resting attempt _ _ => 2 * (budget - attempt) + 2
  | .concluded _ | .announced _ | .ranked .. | .settled .. => 0

/-- The most turns that the items of a batch have before them. -/
def State.turnsLeft (settings : Settings) (state : State Value Error) : Nat :=
  (state.cells.toList.map (Cell.turnsLeft settings.policy.budget)).sum

variable {settings : Settings} {raised : Bool} {state next : State Value Error}
  {event : Event Value Error} {index : Nat}

/-- Moving an item trades the turns that it has before it. -/
theorem State.turnsLeft_setCell
    {before : Cell Value Error}
    (settings : Settings)
    (after : Cell Value Error)
    (found : state.cells[index]? = some before) :
    (state.setCell index after).turnsLeft settings + before.turnsLeft settings.policy.budget =
      state.turnsLeft settings + after.turnsLeft settings.policy.budget := by
  have listed : state.cells.toList[index]? = some before := by simpa using found
  have traded := sum_map_set (Cell.turnsLeft settings.policy.budget) after listed
  simpa only [turnsLeft, setCell, Array.toList_setIfInBounds] using traded

theorem State.turnsLeft_initial
    (settings : Settings)
    (generators : List Random.Generator) :
    (initial settings generators : State Value Error).turnsLeft settings =
      generators.length * (2 * settings.policy.budget + 2) := by
  simp [turnsLeft, initial, Function.comp_def, Cell.turnsLeft]

variable [Retry.Retryable Error]

/-- Starting an item uses up two turns. -/
theorem State.turnsLeft_of_dispatch
    (dispatches : state.step settings raised .dispatch = some next) :
    next.turnsLeft settings + 2 * next.stop.isNone.toNat ≤ state.turnsLeft settings := by
  cases Steps.of_step dispatches with
  | refuse | halt => exact Nat.le_refl _
  | launch generator spared idle left positive running found =>
      have moved := State.turnsLeft_setCell settings (.dispatched generator) found
      simp only [turnsLeft, stop, setCell, idle, Cell.turnsLeft, Option.isNone_none,
        Bool.toNat_true] at moved ⊢
      omega

/-- What an item waits for uses up one of its turns. -/
theorem State.turnsLeft_lt_of_awaits
    {cell : Cell Value Error}
    (awaits : cell.Awaits index event)
    (steps : state.step settings raised event = some next) :
    next.turnsLeft settings < state.turnsLeft settings := by
  cases Steps.of_step steps with
  | refuse | halt | launch => cases awaits
  | start _ generator found =>
      have positive := settings.policy.one_le_budget
      have moved := State.turnsLeft_setCell settings (.attempting 1 generator) found
      simp only [Cell.turnsLeft] at moved
      omega
  | rest _ attempt generator following delay result found backsOff =>
      have within := Retry.lt_budget_of_next_eq_backOff backsOff
      have moved := State.turnsLeft_setCell settings (.resting (attempt + 1) delay following) found
      simp only [Cell.turnsLeft] at moved
      omega
  | settle _ attempt generator result ending found settles =>
      have moved := State.turnsLeft_setCell settings (.settled state.settledCount ending) found
      simp only [turnsLeft, setCell, Cell.turnsLeft] at moved ⊢
      omega
  | resume _ attempt delay generator found =>
      have moved := State.turnsLeft_setCell settings (.attempting attempt generator) found
      simp only [Cell.turnsLeft] at moved
      omega

namespace TimedRun

variable {script : Nat → Nat → ScriptedAttempt Value Error} {start : World Value Error}
  {busy : Option Job} {run other next : TimedRun Value Error} {job : Job} {turns : Nat}

/-- The most turns that a batch has before it: its jobs, those that its items
lead to, and those of the signal unless it is raised. -/
def turnsLeft (settings : Settings) (run : TimedRun Value Error) : Nat :=
  run.world.state.turnsLeft settings + run.timeline.jobs.length +
    2 * (!run.world.raised).toNat

/-! ## What a turn uses up -/

omit [Retry.Retryable Error] in
theorem turnsLeft_wakeDispatcher_le
    (settings : Settings)
    (run : TimedRun Value Error) :
    run.wakeDispatcher.turnsLeft settings ≤ run.turnsLeft settings + 1 := by
  unfold wakeDispatcher
  split
  · simp only [turnsLeft, (Timeline.perm_jobs_wake _ _).length_eq, List.length_cons]
    omega
  · exact Nat.le_succ _

omit [Retry.Retryable Error] in
theorem turnsLeft_fallAsleep
    (settings : Settings)
    (run : TimedRun Value Error)
    (index milliseconds : Nat) :
    (run.fallAsleep index milliseconds).turnsLeft settings = run.turnsLeft settings + 1 := by
  simp only [turnsLeft, fallAsleep, (Timeline.perm_jobs_sleep _ _ _).length_eq, List.length_cons]
  omega

omit [Retry.Retryable Error] in
/-- Raising the signal uses up a turn. -/
theorem turnsLeft_raise_lt
    (unraised : run.world.raised = false) :
    (run.raise settings).turnsLeft settings < run.turnsLeft settings := by
  have fewer : ({ run with world := { run.world with raised := true } } :
      TimedRun Value Error).turnsLeft settings + 1 < run.turnsLeft settings := by
    simp [turnsLeft, unraised]
  unfold raise
  split
  · exact Nat.lt_of_le_of_lt (turnsLeft_wakeDispatcher_le settings _) fewer
  · exact Nat.lt_of_succ_lt fewer

/-- Raising it once more changes nothing. -/
theorem Attends.raise_eq_self
    (attends : run.Attends settings start busy)
    (isRaised : run.world.raised = true) :
    run.raise settings = run := by
  have same : ({ run with world := { run.world with raised := true } } :
      TimedRun Value Error) = run := by
    obtain ⟨timeline, ⟨raised, state⟩, waits, log⟩ := run
    cases isRaised
    rfl
  unfold TimedRun.raise
  rw [same]
  split
  · rename_i heeds
    have awake := attends.alert (by rw [heeds, isRaised]; rfl)
    simp [wakeDispatcher, awake]
  · rfl

theorem Attends.turnsLeft_signalled_le
    (attends : run.Attends settings start busy)
    (raises : Bool)
    (log : List LogEntry) :
    (run.signalled settings raises log).turnsLeft settings ≤ run.turnsLeft settings := by
  cases raises with
  | false => exact Nat.le_refl _
  | true =>
      change (run.raise settings).turnsLeft settings ≤ run.turnsLeft settings
      cases isRaised : run.world.raised with
      | false => exact Nat.le_of_lt (turnsLeft_raise_lt isRaised)
      | true => exact Nat.le_of_eq (congrArg _ (attends.raise_eq_self isRaised))

/-- A turn uses up as many turns as it leaves jobs. -/
theorem Attends.turnsLeft_le_of_works
    (attends : run.Attends settings start busy)
    (works : Works settings run job other) :
    other.turnsLeft settings ≤ run.turnsLeft settings := by
  cases works with
  | idle | park | nothing => exact Nat.le_refl _
  | stop state dispatches =>
      have fewer := State.turnsLeft_of_dispatch dispatches
      simp only [turnsLeft, withState]
      omega
  | launch state dispatches going =>
      have fewer := State.turnsLeft_of_dispatch dispatches
      rw [going, Option.isNone_none, Bool.toNat_true] at fewer
      simp only [turnsLeft, withState, (Timeline.perm_jobs_goOn _ _).length_eq,
        (Timeline.perm_jobs_wake _ _).length_eq, List.length_cons]
      omega
  | sleep index milliseconds raises log before after event found awaits steps =>
      have fewer := State.turnsLeft_lt_of_awaits awaits (steps run.world.raised)
      have signalled := attends.turnsLeft_signalled_le raises log
      rw [turnsLeft_fallAsleep]
      simp only [turnsLeft, withState, signalled_state] at signalled ⊢
      omega
  | settle index order raises log before result ending state found awaits steps =>
      have fewer := State.turnsLeft_lt_of_awaits awaits (steps run.world.raised)
      have signalled := attends.turnsLeft_signalled_le raises log
      refine Nat.le_trans (turnsLeft_wakeDispatcher_le settings _) ?_
      simp only [turnsLeft, withState, signalled_state] at signalled ⊢
      omega

omit [Retry.Retryable Error] in
theorem turnsLeft_withReady
    {before after : List Job}
    (settings : Settings)
    (ready : run.timeline.ready = before ++ job :: after) :
    (run.withReady (before ++ after)).turnsLeft settings + 1 = run.turnsLeft settings := by
  simp only [turnsLeft, withReady, Timeline.jobs, ready, List.length_append, List.length_cons]
  omega

/-! ## Schedules -/

/-- Every step in which no time passes uses up a turn. -/
theorem Attends.turnsLeft_lt_of_proceeds
    (attends : run.Attends settings start none)
    (proceeds : Proceeds settings script run next) :
    next.turnsLeft settings < run.turnsLeft settings := by
  cases proceeds with
  | work before after job ready =>
      have popped := turnsLeft_withReady settings ready
      have works := (attends.withReady ready).turnsLeft_le_of_works
        (works_runJob settings script _ job)
      omega
  | raise unraised => exact turnsLeft_raise_lt unraised

omit [Retry.Retryable Error] in
theorem turnsLeft_awaken
    (settings : Settings)
    (run : TimedRun Value Error) :
    run.awaken.turnsLeft settings = run.turnsLeft settings := by
  simp only [turnsLeft, awaken, (Timeline.perm_jobs_awaken _).length_eq]

omit [Retry.Retryable Error] in
/-- Waiting for the next wake-up makes a job ready. -/
theorem ready_awaken_ne_nil
    (idle : run.timeline.ready = [])
    (asleep : run.timeline.sleeping ≠ []) :
    run.awaken.timeline.ready ≠ [] := by
  cases sleeping : run.timeline.sleeping with
  | nil => exact absurd sleeping asleep
  | cons sleeper sleepers =>
      simp [awaken, Timeline.awaken, idle, sleeping, Timeline.wakeAt]

/-- The most steps of a schedule that a batch has before it, waits among them. -/
def stepsLeft (settings : Settings) (run : TimedRun Value Error) : Nat :=
  2 * run.turnsLeft settings + run.timeline.ready.isEmpty.toNat

/-- Every step of a schedule is one fewer. -/
theorem Attends.stepsLeft_lt_of_advances
    (attends : run.Attends settings start none)
    (advances : Advances settings script run next) :
    next.stepsLeft settings < run.stepsLeft settings := by
  have few : next.timeline.ready.isEmpty.toNat ≤ 1 := Bool.toNat_le _
  cases advances with
  | proceed proceeds =>
      have fewer := attends.turnsLeft_lt_of_proceeds proceeds
      simp only [stepsLeft]
      omega
  | wait idle asleep =>
      have awake := ready_awaken_ne_nil idle asleep
      simp [stepsLeft, turnsLeft_awaken, idle, awake]
  | interrupt time idle unraised =>
      have fewer : ((run.withNow time).raise settings).turnsLeft settings <
          (run.withNow time).turnsLeft settings :=
        turnsLeft_raise_lt unraised
      have same : (run.withNow time).turnsLeft settings = run.turnsLeft settings := rfl
      simp only [stepsLeft]
      omega

section Begun

variable {generators : List Random.Generator}
  (begins : State.begin? settings generators = some state)
include begins

/-- Before time passes only finitely many jobs run. -/
theorem Attends.exists_idle
    (script : Nat → Nat → ScriptedAttempt Value Error)
    (attends : run.Attends settings ⟨raised, state⟩ none) :
    ∃ later, Relation.ReflTransGen (Proceeds settings script) run later ∧
      later.timeline.ready = [] := by
  induction left : run.turnsLeft settings using Nat.strongRecOn generalizing run with
  | ind count inductionHypothesis =>
      cases ready : run.timeline.ready with
      | nil => exact ⟨run, .refl, ready⟩
      | cons job rest =>
          have works : Proceeds settings script run _ := .work run [] rest job ready
          obtain ⟨later, reaches, idle⟩ :=
            inductionHypothesis _ (left ▸ attends.turnsLeft_lt_of_proceeds works)
              (attends.of_proceeds begins works) rfl
          exact ⟨later, .head works reaches, idle⟩

/-- No schedule goes on for ever. -/
theorem Attends.length_le_stepsLeft
    {later : List (TimedRun Value Error)}
    (attends : run.Attends settings ⟨raised, state⟩ none)
    (advances : (run :: later).IsChain (Advances settings script)) :
    later.length ≤ run.stepsLeft settings := by
  induction later generalizing run with
  | nil => exact Nat.zero_le _
  | cons next later inductionHypothesis =>
      obtain ⟨first, rest⟩ := List.isChain_cons_cons.mp advances
      have fewer := attends.stepsLeft_lt_of_advances first
      have others := inductionHypothesis (attends.of_advances begins first) rest
      rw [List.length_cons]
      omega

/-- Within as many turns as there are before it a batch comes to rest. -/
theorem Attends.rests_proceed
    (script : Nat → Nat → ScriptedAttempt Value Error)
    (attends : run.Attends settings ⟨raised, state⟩ none)
    (enough : run.turnsLeft settings ≤ turns) :
    (proceed settings script turns run).timeline.next? = none := by
  induction turns generalizing run with
  | zero =>
      rw [Timeline.next?_eq_none_iff, ← List.length_eq_zero_iff]
      change run.timeline.jobs.length = 0
      unfold turnsLeft at enough
      omega
  | succ turns inductionHypothesis =>
      cases upcoming : run.timeline.next? with
      | none =>
          rw [proceed_of_next?_eq_none upcoming]
          exact upcoming
      | some found =>
          obtain ⟨job, timeline⟩ := found
          have awake := attends.of_reachable begins (reaches_awaken settings script run)
          have proceeds : Proceeds settings script run.awaken _ :=
            proceeds_of_next?_eq_some attends.inOrder upcoming
          have fewer := awake.turnsLeft_lt_of_proceeds proceeds
          rw [turnsLeft_awaken] at fewer
          rw [proceed_of_next?_eq_some upcoming]
          exact inductionHypothesis (awake.of_proceeds begins proceeds) (by omega)

omit [Retry.Retryable Error] in
/-- A batch that has not begun has the dispatcher's turn, the signal and all
attempts before it. -/
theorem turnsLeft_beginning_le
    (raised : Bool) :
    (beginning raised state).turnsLeft settings ≤
      generators.length * (2 * settings.policy.budget + 2) + 3 := by
  obtain rfl := State.eq_initial_of_begin?_eq_some begins
  have few : (!raised).toNat ≤ 1 := Bool.toNat_le _
  simp only [turnsLeft, beginning, State.turnsLeft_initial, Timeline.jobs_start,
    List.length_singleton]
  omega

end Begun

end TimedRun
end Batch
end TenantLoad
