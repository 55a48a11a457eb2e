import TenantLoad.Proofs.Batch.Shutdown
import TenantLoad.Proofs.Tenant.Journey

/-!
# Shutdown of a tenant

`MayBegin` tells which calls are left to a tenant once the signal is raised:
the columns that follow the one under way, and attempts of the items of the
batch under way that have been dispatched.  No event adds to these or begins
another call, and a tenant is cancelled only by a signal that was raised while
it was at work.
-/

namespace TenantLoad
namespace Tenant

/-- The calls that a tenant may still begin once the signal is raised. -/
inductive State.MayBegin (settings : Settings) (state : State) : Origin → Api.Call → Prop
  | column
      (table : Table)
      (column next : Api.Column)
      (later : List Api.Column)
      (position : state.position = .addingColumn table column later)
      (remains : next ∈ later) :
      MayBegin settings state ⟨.addColumn state.newest next, none, 1⟩ (.addColumn table.slug next)
  | item
      (job : Job)
      (index attempt : Nat)
      (errand : Errand)
      (works : state.job? settings = some job)
      (dispatched : index < job.batch.dispatched)
      (given : job.errand index = some errand) :
      MayBegin settings state ⟨job.task, some index, attempt⟩ errand.call

variable {settings : Settings} {raised : Bool} {state next : State} {event : Event}
  {effects new : List Effect} {origin : Origin} {call : Api.Call} {job : Job}

/-! ## What a raised signal stops -/

theorem State.heedsShutdown_of_job
    (works : state.job? settings = some job) :
    job.settings.heedsShutdown = true := by
  unfold job? at works
  cases position : state.position <;> simp only [position] at works <;> cases works <;> rfl

/-- Who is done begins no call. -/
theorem State.not_mayBegin_of_isOver
    (ended : state.isOver = true) :
    ¬state.MayBegin settings origin call := by
  rintro (⟨table, column, other, later, position, _⟩ | ⟨job, _, _, _, works, _, _⟩)
  · simp [isOver, position] at ended
  · rw [isOver_of_job works] at ended
    cases ended

/-- With the signal raised there is no next table. -/
theorem State.nextTable_of_raised
    (settings : Settings)
    (state : State) :
    (state.nextTable settings true).1.isOver = true ∧ (state.nextTable settings true).2 = [] := by
  unfold nextTable
  split
  · exact ⟨rfl, rfl⟩
  · exact ⟨rfl, rfl⟩

/-- With the signal raised the work does not go on after a batch. -/
theorem State.afterBatch_of_raised
    (works : state.job? settings = some job) :
    (state.afterBatch settings true).1.isOver = true ∧
      (state.afterBatch settings true).2 = [] := by
  unfold afterBatch
  cases position : state.position with
  | waiting | signingUp | creatingTable | addingColumn | ended | crashed =>
      simp [job?, position] at works
  | insertingRows => exact ⟨rfl, rfl⟩
  | searching => exact state.nextTable_of_raised settings

/-- With the signal raised the work goes on after a single call only with the
next column. -/
theorem State.resume_of_raised
    {ask : Ask}
    (settings : Settings)
    (asks : state.asking? = some ask)
    (reply : Api.Reply) :
    ((state.resume settings true reply).1.isOver = true ∧
        (state.resume settings true reply).2 = []) ∨
      ∃ table column next later,
        state.position = .addingColumn table column (next :: later) ∧
          state.resume settings true reply =
            (state.moveTo (.addingColumn table next later),
              [.call ⟨.addColumn state.newest next, none, 1⟩ (.addColumn table.slug next)]) := by
  cases position : state.position with
  | waiting | insertingRows | searching | ended | crashed => simp [asking?, position] at asks
  | signingUp =>
      simp only [resume, position]
      exact Or.inl (state.nextTable_of_raised settings)
  | creatingTable request =>
      simp only [resume, position]
      exact Or.inl ⟨rfl, rfl⟩
  | addingColumn table column later =>
      simp only [resume, position]
      cases later with
      | nil => exact Or.inl ⟨rfl, rfl⟩
      | cons following rest => exact Or.inr ⟨table, column, following, rest, rfl, rfl⟩

/-- The end of a call begins none. -/
theorem call_notMem_returning
    {owner : Origin}
    {ended : Api.Call}
    {duration : Metrics.Millis}
    {extra : List (String × Json)}
    {attempt : Api.Attempt} :
    .call origin call ∉ returning owner ended duration extra attempt := by
  simp [returning]

/-! ## What it is to be cancelled -/

/-- The outcome of a cancelled tenant shows a failure that shutdown caused. -/
theorem State.of_cancelled
    {outcome : Outcome}
    (ends : state.outcome? = some outcome)
    (cancelled : outcome.cancelled = true) :
    ∃ failure, state.position = .ended (some failure) ∧ failure.isCancelled = true := by
  unfold outcome? at ends
  split at ends
  · cases ends
    cases cancelled
  · rename_i failure position
    cases ends
    exact ⟨failure, position, cancelled⟩
  · cases ends
    cases cancelled
  · cases ends

/-- The failure of a single call is not for shutdown. -/
theorem State.isCancelled_of_asking
    {ask : Ask}
    (asks : state.asking? = some ask)
    (error : Api.Error) :
    (ask.failure error).isCancelled = false := by
  unfold asking? at asks
  cases position : state.position <;> simp only [position] at asks <;> cases asks <;> rfl

/-- The failure of a batch is for shutdown if that of its report is. -/
theorem State.isCancelled_of_job
    (works : state.job? settings = some job)
    (source : Batch.Failure) :
    (job.failure source).isCancelled = source.isCancelled := by
  unfold job? at works
  cases position : state.position <;> simp only [position] at works <;> cases works <;> rfl

/-- Work that ends for shutdown where it goes on meets a raised signal. -/
theorem Enters.raised_of_ended
    {left : List Task}
    {failure : Failure}
    (enters : Enters settings raised state left next new)
    (ended : next.position = .ended (some failure)) :
    raised = true := by
  cases enters with
  | finish => cases ended
  | refuse _ _ isRaised => exact isRaised
  | call ask _ asks =>
      have continues := State.isOver_of_asking asks
      simp [State.isOver, ended] at continues
  | batch job _ _ works =>
      have continues := State.isOver_of_job works
      simp [State.isOver, ended] at continues
  | crash _ _ crashed => simp [crashed] at ended

/-- A batch is cancelled only by a raised signal. -/
theorem Conduct.raised_of_cancelled
    {batchSettings : Batch.Settings}
    {generators : List Random.Generator}
    {task : Task}
    {errand : Nat → Option Errand}
    {acts : List CallAct}
    {part : List Effect}
    {batch : Calls}
    (conduct : Conduct batchSettings generators task errand acts part raised batch)
    (cancelled : (batch.gatherAll.report batchSettings).cancelled = true) :
    raised = true := by
  obtain ⟨_, _, _, begun, runs, _⟩ := conduct.ran
  have stopped := batch.gatherAll.dispatcher_eq_of_cancelled cancelled
  rw [Batch.State.gatherAll_dispatcher] at stopped
  exact (Batch.World.raised_of_run_of_stopped begun runs stopped).2

/-! ## One event -/

/-- A call that a turn of a batch begins is an attempt of a dispatched item. -/
theorem Conduct.call_of_turn
    {batchSettings : Batch.Settings}
    {generators : List Random.Generator}
    {task : Task}
    {errand : Nat → Option Errand}
    {acts : List CallAct}
    {part : List Effect}
    {batch next : Calls}
    {turn : Batch.Event Api.Reply Api.Error}
    {duration : Metrics.Millis}
    (conduct : Conduct batchSettings generators task errand acts part raised batch)
    (enabled : batch.step batchSettings raised turn = some next)
    (begins : .call origin call ∈ itemEffects task errand duration batch turn.opening) :
    ∃ index attempt purpose, index < batch.dispatched ∧ errand index = some purpose ∧
      origin = ⟨task, some index, attempt⟩ ∧ call = purpose.call := by
  obtain ⟨_, _, _, begun, runs, _⟩ := conduct.ran
  have traces := Batch.World.traces_of_run begun runs
  have launched : ∀ {index : Nat} {cell : Batch.Cell Api.Reply Api.Error},
      batch.cells[index]? = some cell → cell.isWaiting = false → index < batch.dispatched := by
    intro index cell found left
    obtain ⟨_, _, item⟩ := traces.item_of_present found
    exact Nat.lt_of_not_le fun waits => by simp [item.waits.mpr waits] at left
  cases Batch.Steps.of_step enabled with
  | refuse | halt | launch => simp [Batch.Event.opening, itemEffects] at begins
  | rest _ _ _ _ _ _ found | settle _ _ _ _ _ found =>
      simp only [Batch.Event.opening, itemEffects, found] at begins
      split at begins
      · rename_i attempting
        cases attempting
        exact absurd begins call_notMem_returning
      · cases begins
  | start index generator found =>
      obtain ⟨purpose, given, _⟩ := conduct.threads index _ found
      simp only [Batch.Event.opening, itemEffects, given, List.mem_singleton,
        Effect.call.injEq] at begins
      exact ⟨index, 1, purpose, launched found rfl, given, begins⟩
  | resume index attempt delay generator found =>
      obtain ⟨purpose, given, _⟩ := conduct.threads index _ found
      simp only [Batch.Event.opening, itemEffects, given, found, List.mem_singleton,
        Effect.call.injEq] at begins
      exact ⟨index, attempt, purpose, launched found rfl, given, begins⟩

/-- With the signal raised an event begins no call but those that were left,
and leaves no others. -/
theorem Travels.mayBegin_of_moves
    (travels : Travels settings ⟨true, state⟩ effects)
    (moves : Moves settings true state event next new)
    (whole : event.isAct = false) :
    (∀ origin call, .call origin call ∈ new → state.MayBegin settings origin call) ∧
      ∀ origin call, next.MayBegin settings origin call → state.MayBegin settings origin call := by
  have of_isOver : ∀ {origin call}, next.isOver = true → next.MayBegin settings origin call →
      state.MayBegin settings origin call :=
    fun ended may => absurd may (State.not_mayBegin_of_isOver ended)
  cases moves with
  | refuse => exact ⟨by simp, fun _ _ => of_isOver rfl⟩
  | connect _ isUnraised | unconnected _ _ isUnraised | crashUnconnected _ _ isUnraised =>
      cases isUnraised
  | fail | crash =>
      exact ⟨fun _ _ member => absurd member call_notMem_returning, fun _ _ => of_isOver rfl⟩
  | answer ask duration reply asks =>
      rcases State.resume_of_raised settings asks reply with
        ⟨ended, quiet⟩ | ⟨table, column, following, later, position, resumes⟩
      · rw [quiet, List.append_nil]
        exact ⟨fun _ _ member => absurd member call_notMem_returning,
          fun _ _ => of_isOver ended⟩
      · rw [resumes]
        constructor
        · intro origin call member
          rcases List.mem_append.mp member with ended | begins
          · exact absurd ended call_notMem_returning
          · cases List.mem_singleton.mp begins
            exact .column table column following _ position (List.mem_cons_self ..)
        · rintro origin call (⟨_, _, other, _, moved, remains⟩ | ⟨_, _, _, _, works, _, _⟩)
          · cases moved
            exact .column table column other _ position (List.mem_cons_of_mem _ remains)
          · cases works
  | act => cases whole
  | turn job duration turn batch works enabled =>
      obtain ⟨_, _, _, _, _, _, _, stands⟩ := travels
      obtain ⟨_, _, _, _, _, _, _, conduct⟩ := stands.of_job works
      have heeds := State.heedsShutdown_of_job works
      have same := ((Batch.Steps.of_step enabled).of_raised heeds rfl).1
      have continues := State.job?_withBatch works batch
      constructor
      · intro origin call begins
        obtain ⟨index, attempt, purpose, dispatched, given, rfl, rfl⟩ :=
          conduct.call_of_turn enabled begins
        exact .item job index attempt purpose works dispatched given
      · rintro origin call
          (⟨table, column, other, later, position, _⟩ |
            ⟨other, index, attempt, purpose, worksOn, dispatched, given⟩)
        · simp [State.job?, position] at continues
        · rw [continues, Option.some.injEq] at worksOn
          subst worksOn
          exact .item job index attempt purpose works (same ▸ dispatched) given
  | gathered job values works complete isOk =>
      obtain ⟨ended, quiet⟩ := State.afterBatch_of_raised works
      rw [quiet]
      exact ⟨by simp, fun _ _ => of_isOver ended⟩
  | spoiled => exact ⟨by simp, fun _ _ => of_isOver rfl⟩

/-- A tenant is cancelled only by a signal that it meets at work. -/
theorem Travels.raised_of_moves
    {outcome : Outcome}
    (travels : Travels settings ⟨raised, state⟩ effects)
    (moves : Moves settings raised state event next new)
    (ends : next.outcome? = some outcome)
    (cancelled : outcome.cancelled = true) :
    raised = true ∧ state.isOver = false := by
  obtain ⟨failure, ended, isCancelled⟩ := State.of_cancelled ends cancelled
  cases moves with
  | refuse connection waits isRaised => exact ⟨isRaised, by simp [State.isOver, waits]⟩
  | connect | crashUnconnected | crash => cases ended
  | unconnected =>
      cases ended
      cases isCancelled
  | answer ask duration reply asks =>
      obtain ⟨_, _, _, _, _, _, _, stands⟩ := travels
      obtain ⟨_, sited, _⟩ := stands.of_asking asks
      obtain ⟨_, _, enters⟩ := enters_resume raised reply asks sited
      exact ⟨enters.raised_of_ended ended, State.isOver_of_asking asks⟩
  | fail ask duration error asks =>
      cases ended
      rw [State.isCancelled_of_asking asks] at isCancelled
      cases isCancelled
  | act job duration act batch works =>
      have continues := State.isOver_of_job (State.job?_withBatch works batch)
      simp [State.isOver, ended] at continues
  | turn job duration turn batch works =>
      have continues := State.isOver_of_job (State.job?_withBatch works batch)
      simp [State.isOver, ended] at continues
  | gathered job values works =>
      obtain ⟨_, _, _, _, _, _, _, stands⟩ := travels
      obtain ⟨_, sited, _⟩ := stands.of_job works
      obtain ⟨_, _, enters⟩ := enters_afterBatch raised works sited
      exact ⟨enters.raised_of_ended ended, State.isOver_of_job works⟩
  | spoiled job source works complete isError =>
      obtain ⟨_, _, _, _, _, _, _, stands⟩ := travels
      obtain ⟨_, _, _, _, _, _, _, conduct⟩ := stands.of_job works
      cases ended
      rw [State.isCancelled_of_job works] at isCancelled
      exact ⟨conduct.raised_of_cancelled (Batch.Report.cancelled_of_result_eq_error isError isCancelled),
        State.isOver_of_job works⟩

/-! ## Runs -/

namespace World

variable {index : Nat} {generator : Random.Generator} {earlier later happenings : List Happening}
  {moment final : World} {shown : List Effect}

/-- A signal that is raised stays so. -/
theorem raised_of_run
    (runs : moment.run settings later = some (final, effects))
    (isRaised : moment.raised = true) :
    final.raised = true :=
  run_induction (motive := fun current _ => current.raised = true)
    (fun _ _ _ _ _ _ stays _ _ => stays) isRaised (fun _ _ _ => rfl) runs

/-- From the moment the signal is raised a tenant begins no call but those that
were left to it then. -/
theorem mayBegin_of_run
    (reaches : World.run settings ⟨raised, Tenant.initial index generator⟩ earlier =
      some (moment, shown))
    (isRaised : moment.raised = true)
    (runs : moment.run settings later = some (final, effects))
    (whole : ∀ event, .event event ∈ later → event.isAct = false) :
    (∀ origin call, .call origin call ∈ effects →
        moment.state.MayBegin settings origin call) ∧
      ∀ origin call, final.state.MayBegin settings origin call →
        moment.state.MayBegin settings origin call := by
  induction later using List.reverseRecOn generalizing final effects with
  | nil =>
      cases runs
      exact ⟨by simp, fun _ _ may => may⟩
  | append_singleton past happening inductionHypothesis =>
      obtain ⟨current, first, second, before, last, rfl⟩ := run_append_eq_some_iff.mp runs
      obtain ⟨begins, left⟩ := inductionHypothesis before fun event member =>
        whole event (List.mem_append_left _ member)
      obtain ⟨_, new, _, steps, ended, rfl⟩ := run_cons_eq_some_iff.mp last
      cases ended
      rw [List.append_nil]
      cases happening with
      | raise =>
          cases steps
          rw [List.append_nil]
          exact ⟨begins, left⟩
      | event happened =>
          obtain ⟨⟨next, fresh⟩, steps, same⟩ := Option.map_eq_some_iff.mp steps
          cases same
          have isStill := raised_of_run before isRaised
          have travels := travels_of_run
            (run_append_eq_some_iff.mpr ⟨moment, shown, first, reaches, before, rfl⟩)
          obtain ⟨stillRaised, state⟩ := current
          obtain rfl : stillRaised = true := isStill
          obtain ⟨beginsNow, leftNow⟩ := travels.mayBegin_of_moves (Moves.of_step steps)
            (whole happened (List.mem_append_right _ (List.mem_singleton.mpr rfl)))
          constructor
          · intro origin call member
            rcases List.mem_append.mp member with sooner | now
            · exact begins origin call sooner
            · exact left origin call (beginsNow origin call now)
          · intro origin call may
            exact left origin call (leftNow origin call may)

/-- A cancelled tenant was at work when the signal was raised. -/
theorem raised_of_cancelled
    {outcome : Outcome}
    (runs : World.run settings ⟨raised, Tenant.initial index generator⟩ happenings =
      some (final, effects))
    (ends : final.state.outcome? = some outcome)
    (cancelled : outcome.cancelled = true) :
    ∃ earlier later moment shown, happenings = earlier ++ later ∧
      World.run settings ⟨raised, Tenant.initial index generator⟩ earlier =
        some (moment, shown) ∧
      moment.raised = true ∧ moment.state.isOver = false := by
  induction happenings using List.reverseRecOn generalizing final effects with
  | nil =>
      cases runs
      rw [initial_eq] at ends
      cases ends
  | append_singleton past happening inductionHypothesis =>
      obtain ⟨current, first, second, before, last, rfl⟩ := run_append_eq_some_iff.mp runs
      obtain ⟨_, new, _, steps, ended, rfl⟩ := run_cons_eq_some_iff.mp last
      cases ended
      cases happening with
      | raise =>
          cases steps
          obtain ⟨earlier, later, moment, shown, rfl, found⟩ := inductionHypothesis before ends
          exact ⟨earlier, later ++ [.raise], moment, shown, List.append_assoc .., found⟩
      | event happened =>
          obtain ⟨⟨next, fresh⟩, steps, same⟩ := Option.map_eq_some_iff.mp steps
          cases same
          have met := (travels_of_run before).raised_of_moves (Moves.of_step steps) ends cancelled
          exact ⟨past, [.event happened], current, first, rfl, before, met⟩

end World

end Tenant
end TenantLoad
