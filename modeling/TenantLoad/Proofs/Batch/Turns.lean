import TenantLoad.Batch.TimedRun
import TenantLoad.Proofs.Batch.Completion

/-!
# Turns are runs

A turn of a batch on one thread is a sequence of acts that nothing interrupts,
and a batch on a timeline takes such turns.  So what holds after every run
holds of these batches as well.
-/

namespace TenantLoad
namespace Batch

variable {Value Error : Type} [Retry.Retryable Error]

/-- Something that can happen takes one world to another. -/
def World.Leads (settings : Settings) (world final : World Value Error) : Prop :=
  ∃ happenings, world.run settings happenings = some final

variable {settings : Settings} {raised : Bool} {state next : State Value Error}

namespace World.Leads

variable {world between final : World Value Error}

theorem refl (world : World Value Error) : Leads settings world world := ⟨[], rfl⟩

theorem trans
    (first : Leads settings world between)
    (second : Leads settings between final) :
    Leads settings world final := by
  obtain ⟨earlier, runsFirst⟩ := first
  obtain ⟨later, runsSecond⟩ := second
  exact ⟨earlier ++ later, run_append_eq_some_iff.mpr ⟨between, runsFirst, runsSecond⟩⟩

theorem of_step
    (happening : Happening Value Error)
    (steps : world.step settings happening = some final) :
    Leads settings world final :=
  ⟨[happening], by rw [run_singleton, steps]⟩

theorem of_raise (world : World Value Error) :
    Leads settings world { world with raised := true } :=
  of_step .raise rfl

end World.Leads

/-- Acts, one after the other, take one state to another. -/
def State.Takes (settings : Settings) (raised : Bool) (acts : List (Act Value Error))
    (state next : State Value Error) : Prop :=
  World.run settings ⟨raised, state⟩ (acts.map .act) = some ⟨raised, next⟩

namespace State.Takes

variable {between : State Value Error} {act : Act Value Error}
  {acts earlier later : List (Act Value Error)}

theorem refl (state : State Value Error) : Takes settings raised [] state state := rfl

theorem of_act
    (acts : state.act settings raised act = some next) :
    Takes settings raised [act] state next := by
  rw [Takes, List.map_singleton, World.run_singleton, World.step, acts, Option.map_some]

theorem append
    (first : Takes settings raised earlier state between)
    (second : Takes settings raised later between next) :
    Takes settings raised (earlier ++ later) state next := by
  rw [Takes, List.map_append]
  exact World.run_append_eq_some_iff.mpr ⟨_, first, second⟩

/-- The first of some acts, and those after it. -/
theorem of_cons
    (takes : Takes settings raised (act :: acts) state next) :
    ∃ between, state.act settings raised act = some between ∧
      Takes settings raised acts between next := by
  rw [Takes, List.map_cons, ← List.singleton_append] at takes
  obtain ⟨world, first, rest⟩ := World.run_append_eq_some_iff.mp takes
  rw [World.run_singleton, World.step, Option.map_eq_some_iff] at first
  obtain ⟨between, enabled, rfl⟩ := first
  exact ⟨between, enabled, rest⟩

theorem leads
    (takes : Takes settings raised acts state next) :
    World.Leads settings ⟨raised, state⟩ ⟨raised, next⟩ :=
  ⟨_, takes⟩

/-- Every act counts. -/
theorem length_add_weight_le
    (takes : Takes settings raised acts state next) :
    acts.length + next.weight settings ≤ state.weight settings := by
  induction acts generalizing state with
  | nil =>
      cases takes
      exact Nat.le_of_eq (Nat.zero_add _)
  | cons act acts inductionHypothesis =>
      obtain ⟨between, enabled, rest⟩ := takes.of_cons
      have first := (Moves.of_act enabled).weight_lt
      have others := inductionHypothesis rest
      rw [List.length_cons]
      omega

end State.Takes

/-! ## One thread -/

/-- Whether an act neither begins nor ends an attempt. -/
def Act.isQuiet : Act Value Error → Bool
  | .start _ | .finish .. | .resume _ => false
  | _ => true

/-- A dispatch is a look, and unless it stops at the signal a take, a check
and, unless it stops at the halt, a launch. -/
theorem State.takes_of_dispatch
    (dispatches : state.dispatch settings raised = some next) :
    ∃ quiet, (∀ act ∈ quiet, act.isQuiet = true) ∧
      Takes settings raised (.look :: quiet) state next := by
  obtain ⟨looked, looks, onwards⟩ := Option.bind_eq_some_iff.mp dispatches
  have toLooked : Takes settings raised [.look] state looked := .of_act looks
  cases stops : looked.stop.isSome with
  | true =>
      simp only [stops, if_true] at onwards
      cases onwards
      exact ⟨[], by simp, toLooked⟩
  | false =>
      simp only [stops, Bool.false_eq_true, if_false] at onwards
      obtain ⟨taken, takes, onwards⟩ := Option.bind_eq_some_iff.mp onwards
      obtain ⟨checked, checks, onwards⟩ := Option.bind_eq_some_iff.mp onwards
      have toTaken : Takes settings raised [.take] looked taken := .of_act takes
      have ofCheck : Takes settings raised [.check] taken checked := .of_act checks
      have toChecked : Takes settings raised [.look, .take, .check] state checked :=
        (toLooked.append toTaken).append ofCheck
      cases stopsThere : checked.stop.isSome with
      | true =>
          simp only [stopsThere, if_true] at onwards
          cases onwards
          exact ⟨[.take, .check], by simp [Act.isQuiet], toChecked⟩
      | false =>
          simp only [stopsThere, Bool.false_eq_true, if_false] at onwards
          have ofLaunch : Takes settings raised [.launch] checked next := .of_act onwards
          exact ⟨[.take, .check, .launch], by simp [Act.isQuiet], toChecked.append ofLaunch⟩

/-- The end of an attempt is one act, and three more where the loop has
ended. -/
theorem State.takes_of_finish
    {index : Nat}
    {result : Retry.Attempt Value Error}
    (finishes : state.finish settings index result = some next) :
    ∃ quiet, (∀ act ∈ quiet, act.isQuiet = true) ∧
      Takes settings raised (.finish index result :: quiet) state next := by
  obtain ⟨ended, ends, onwards⟩ := Option.bind_eq_some_iff.mp finishes
  have toEnded : Takes settings raised [.finish index result] state ended := .of_act ends
  split at onwards
  · obtain ⟨announced, announces, onwards⟩ := Option.bind_eq_some_iff.mp onwards
    obtain ⟨ranked, ranks, releases⟩ := Option.bind_eq_some_iff.mp onwards
    have toAnnounced : Takes settings raised [.announce index] ended announced :=
      .of_act announces
    have toRanked : Takes settings raised [.rank index] announced ranked := .of_act ranks
    have toReleased : Takes settings raised [.release index] ranked next := .of_act releases
    exact ⟨[.announce index, .rank index, .release index], by simp [Act.isQuiet],
      ((toEnded.append toAnnounced).append toRanked).append toReleased⟩
  · cases onwards
    exact ⟨[], by simp, toEnded⟩

/-- Every event is the act that it opens with and then acts that neither begin
nor end an attempt. -/
theorem State.takes_of_step
    {event : Event Value Error}
    (steps : state.step settings raised event = some next) :
    ∃ quiet, (∀ act ∈ quiet, act.isQuiet = true) ∧
      Takes settings raised (event.opening :: quiet) state next := by
  cases event with
  | dispatch => exact takes_of_dispatch steps
  | start index => exact ⟨[], by simp, .of_act steps⟩
  | finish index result => exact takes_of_finish steps
  | resume index => exact ⟨[], by simp, .of_act steps⟩

/-- Gathering all outcomes is a sequence of acts that neither begin nor end an
attempt. -/
theorem State.takes_gatherAll
    (settings : Settings)
    (raised : Bool)
    (state : State Value Error) :
    ∃ quiet, (∀ act ∈ quiet, act.isQuiet = true) ∧
      Takes settings raised quiet state state.gatherAll := by
  have gathers : ∀ (indices : List Nat) (state : State Value Error),
      ∃ quiet, (∀ act ∈ quiet, act.isQuiet = true) ∧
        Takes settings raised quiet state
          (indices.foldl (fun state index => (state.gather index).getD state) state) := by
    intro indices
    induction indices with
    | nil => exact fun state => ⟨[], by simp, .refl state⟩
    | cons index indices inductionHypothesis =>
        intro state
        cases gathered : state.gather index with
        | none =>
            simp only [List.foldl_cons, gathered, Option.getD_none]
            exact inductionHypothesis state
        | some next =>
            simp only [List.foldl_cons, gathered, Option.getD_some]
            obtain ⟨quiet, areQuiet, takes⟩ := inductionHypothesis next
            have toNext : Takes settings raised [.gather index] state next := .of_act gathered
            exact ⟨.gather index :: quiet, by simpa [Act.isQuiet] using areQuiet,
              toNext.append takes⟩
  exact gathers _ state

theorem State.leads_of_dispatch
    (dispatches : state.dispatch settings raised = some next) :
    World.Leads settings ⟨raised, state⟩ ⟨raised, next⟩ := by
  obtain ⟨_, _, takes⟩ := takes_of_dispatch dispatches
  exact takes.leads

theorem State.leads_of_finish
    {index : Nat}
    {result : Retry.Attempt Value Error}
    (finishes : state.finish settings index result = some next) :
    World.Leads settings ⟨raised, state⟩ ⟨raised, next⟩ := by
  obtain ⟨_, _, takes⟩ := takes_of_finish finishes
  exact takes.leads

/-- Every event is a sequence of acts. -/
theorem State.leads_of_step
    {event : Event Value Error}
    (steps : state.step settings raised event = some next) :
    World.Leads settings ⟨raised, state⟩ ⟨raised, next⟩ := by
  obtain ⟨_, _, takes⟩ := takes_of_step steps
  exact takes.leads

theorem State.leads_gatherAll
    (state : State Value Error) :
    World.Leads settings ⟨raised, state⟩ ⟨raised, state.gatherAll⟩ := by
  obtain ⟨_, _, takes⟩ := takes_gatherAll settings raised state
  exact takes.leads

/-- Every sequence of turns is a run. -/
theorem World.leads_of_turns
    {world final : World Value Error}
    {turns : List (Turn Value Error)}
    (takes : world.turns settings turns = some final) :
    Leads settings world final := by
  induction turns generalizing world with
  | nil =>
      cases takes
      exact .refl _
  | cons turn turns inductionHypothesis =>
      obtain ⟨between, first, rest⟩ := Option.bind_eq_some_iff.mp takes
      refine Leads.trans ?_ (inductionHypothesis rest)
      cases turn with
      | raise =>
          cases first
          exact .of_raise _
      | event event =>
          obtain ⟨next, steps, rfl⟩ := Option.map_eq_some_iff.mp first
          exact State.leads_of_step steps

/-! ## A timeline -/

namespace TimedRun

variable {run : TimedRun Value Error} {index attempt : Nat}
  {script : Nat → Nat → ScriptedAttempt Value Error}

omit [Retry.Retryable Error] in
@[simp] theorem wakeDispatcher_world
    (run : TimedRun Value Error) :
    run.wakeDispatcher.world = run.world := by
  unfold wakeDispatcher
  split <;> rfl

omit [Retry.Retryable Error] in
@[simp] theorem raise_world
    (run : TimedRun Value Error) :
    (run.raise settings).world = { run.world with raised := true } := by
  unfold raise
  split
  · rw [wakeDispatcher_world]
  · rfl

theorem leads_dispatcherTurn
    (run : TimedRun Value Error) :
    World.Leads settings run.world (run.dispatcherTurn settings).world := by
  unfold dispatcherTurn
  split
  · exact .refl _
  · split
    · exact .refl _
    · rename_i next dispatches
      split
      · exact State.leads_of_dispatch dispatches
      · exact State.leads_of_dispatch dispatches

/-- A signal that an attempt may raise is one thing that happens. -/
theorem leads_raise_if
    (raises : Bool)
    (run : TimedRun Value Error) :
    World.Leads settings run.world (if raises then run.raise settings else run).world := by
  cases raises with
  | true =>
      rw [if_pos rfl, raise_world]
      exact .of_raise _
  | false => exact .refl _

theorem leads_beginAttempt
    (begins : World.Leads settings run.world { run.world with state }) :
    World.Leads settings run.world
      (run.beginAttempt settings script index attempt state).world :=
  begins.trans (leads_raise_if _ { run with world := { run.world with state } })

theorem leads_endAttempt
    (run : TimedRun Value Error)
    (index attempt : Nat) :
    World.Leads settings run.world (run.endAttempt settings script index attempt).world := by
  refine (leads_raise_if (script index attempt).raisesAfter run).trans ?_
  unfold endAttempt
  dsimp only
  generalize (if (script index attempt).raisesAfter then run.raise settings else run) = run
  split
  · exact .refl _
  · rename_i next finishes
    refine (State.leads_of_finish finishes).trans ?_
    split
    · exact .refl _
    · rw [wakeDispatcher_world]
      exact .refl _

theorem leads_itemTurn
    (run : TimedRun Value Error)
    (index : Nat) :
    World.Leads settings run.world (run.itemTurn settings script index).world := by
  unfold itemTurn
  dsimp only
  split
  · split
    · rename_i next steps
      exact leads_beginAttempt (State.leads_of_step steps)
    · exact .refl _
  · split
    · rename_i next steps
      exact leads_beginAttempt (State.leads_of_step steps)
    · exact .refl _
  · exact leads_endAttempt run index _
  · exact .refl _

theorem leads_proceed
    (settings : Settings)
    (script : Nat → Nat → ScriptedAttempt Value Error)
    (turns : Nat)
    (run : TimedRun Value Error) :
    World.Leads settings run.world (proceed settings script turns run).world := by
  induction turns generalizing run with
  | zero => exact .refl _
  | succ turns inductionHypothesis =>
      unfold proceed
      split
      · exact .refl _
      · rename_i job timeline ready
        cases job with
        | dispatcher =>
            exact (leads_dispatcherTurn { run with timeline }).trans (inductionHypothesis _)
        | item index =>
            exact (leads_itemTurn { run with timeline } index).trans (inductionHypothesis _)

theorem leads_ofScript
    (generators : List Random.Generator) :
    World.Leads settings ⟨raised, .initial settings generators⟩
      (ofScript settings raised script generators).world := by
  have proceeds := leads_proceed settings script (turnLimit settings generators.length)
    { timeline := .start [.dispatcher]
      world := ⟨raised, .initial settings generators⟩
      dispatcherWaits := false
      log := [] }
  exact proceeds.trans (State.leads_gatherAll _)

/-- A batch on a timeline ends as some run of the batch does. -/
theorem exists_run_of_ofScript?_eq_some
    {generators : List Random.Generator}
    (ends : ofScript? settings raised script generators = some run) :
    ∃ state, State.begin? settings generators = some state ∧
      ∃ happenings, World.run settings ⟨raised, state⟩ happenings = some run.world := by
  unfold ofScript? at ends
  split at ends
  · rename_i fits
    cases ends
    refine ⟨.initial settings generators, by rw [State.begin?, if_pos fits], ?_⟩
    exact leads_ofScript generators
  · cases ends

end TimedRun
end Batch
end TenantLoad
