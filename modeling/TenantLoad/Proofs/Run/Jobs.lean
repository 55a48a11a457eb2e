import TenantLoad.Proofs.Batch.Rest
import TenantLoad.Proofs.Run.Schedules
import TenantLoad.Proofs.Tenant.Journey

/-!
# The jobs that an event leaves

An event of a tenant leaves the jobs that follow from it: the end of the call
that has begun, the turn of a tenant with a batch to go on with, the start of
an item or the end of its rest.  `Leaves` lists them case by case, with what
the event makes of the tenant, and `Works` lists what becomes of a run when a
job of it runs.
-/

namespace TenantLoad
namespace Tenant

variable {settings : Settings} {state : State}

/-- Who asks has no batch under way. -/
theorem State.job?_of_asking
    {ask : Ask}
    (asks : state.asking? = some ask) :
    state.job? settings = none := by
  unfold asking? at asks
  unfold job?
  cases position : state.position <;> simp [position] at asks ⊢

/-- Who is done has no batch under way. -/
theorem State.job?_of_isOver
    (ended : state.isOver = true) :
    state.job? settings = none := by
  unfold isOver at ended
  unfold job?
  cases position : state.position <;> simp [position] at ended ⊢

end Tenant

namespace Run

open TenantLoad.Tenant (Effect)

variable {Memory : Type}

/-- Whether a job is a single act of a batch. -/
def Job.isAct : Job → Bool
  | .turn _ => false
  | .event _ happens => happens.isAct

/-- What an event of a batch adds to the jobs of its tenant: its turn after a
dispatch, what the item waits for that has moved, and the turn of a tenant that
has waited for an item to end. -/
inductive Adds (index : Nat) (parked : Bool) (batch next : Tenant.Calls) :
    Batch.Event Api.Reply Api.Error → List Job → Prop
  | stop
      (reason : Batch.Stop)
      (stops : next.stop = some reason)
      (cells : next.cells = batch.cells) :
      Adds index parked batch next .dispatch [.turn index]
  | launch
      (generator : Random.Generator)
      (going : next.stop = none)
      (cells :
        next.cells = batch.cells.setIfInBounds batch.dispatched (.dispatched generator)) :
      Adds index parked batch next .dispatch
        [.turn index, .event index (TimedRun.instant (.start batch.dispatched))]
  | attempt
      {event : Batch.Event Api.Reply Api.Error}
      (item attempt : Nat)
      (generator : Random.Generator)
      (duration : Metrics.Millis)
      (result : Api.Attempt)
      (opens : event = .start item ∨ event = .resume item)
      (begins : next = batch.setCell item (.attempting attempt generator)) :
      Adds index parked batch next event [.event index (.batch duration (.finish item result))]
  | rest
      (item attempt : Nat)
      (generator : Random.Generator)
      (delay : Duration)
      (result : Api.Attempt)
      (rests : next = batch.setCell item (.resting attempt delay generator)) :
      Adds index parked batch next (.finish item result)
        [.event index (TimedRun.instant (.resume item))]
  | settle
      (item order : Nat)
      (ending : Retry.Ending Api.Reply Api.Error)
      (result : Api.Attempt)
      (cells : next.cells = batch.cells.setIfInBounds item (.settled order ending)) :
      Adds index parked batch next (.finish item result) (if parked then [.turn index] else [])

/-- What an event makes of a tenant, with the jobs that it leaves. -/
inductive Leaves (settings : Tenant.Settings) (raised : Bool) (index : Nat) (parked : Bool)
    (before : Tenant.State) : Tenant.Event → Tenant.State → List Job → Prop
  | ended
      {event : Tenant.Event}
      {after : Tenant.State}
      (ended : after.isOver = true) :
      Leaves settings raised index parked before event after []
  | call
      {event : Tenant.Event}
      {after : Tenant.State}
      (ask : Tenant.Ask)
      (duration : Metrics.Millis)
      (attempt : Api.Attempt)
      (asks : after.asking? = some ask) :
      Leaves settings raised index parked before event after
        [.event index (.answered duration attempt)]
  | batch
      {event : Tenant.Event}
      {after : Tenant.State}
      (job : Tenant.Job)
      (generators : List Random.Generator)
      (works : after.job? settings = some job)
      (begins : Batch.State.begin? job.settings generators = some job.batch) :
      Leaves settings raised index parked before event after [.turn index]
  | turn
      {event : Batch.Event Api.Reply Api.Error}
      {added : List Job}
      (job : Tenant.Job)
      (duration : Metrics.Millis)
      (next : Tenant.Calls)
      (works : before.job? settings = some job)
      (enabled : job.batch.step job.settings raised event = some next)
      (adds : Adds index parked job.batch next event added) :
      Leaves settings raised index parked before (.batch duration event)
        (before.withBatch next) added

namespace TimedRun

variable {settings : Tenant.Settings} {service : Service Memory} {run other : TimedRun Memory}
  {index : Nat} {before after tenant : Tenant.State} {event : Tenant.Event} {effects : List Effect}
  {added : List Job}

/-- The batch that a tenant has under way is that of its job. -/
theorem batch?_eq
    (settings : Tenant.Settings)
    (tenant : Tenant.State) :
    batch? settings tenant =
      (tenant.job? settings).map fun job => (job.settings, job.batch) := by
  unfold batch? Tenant.State.job?
  cases tenant.position <;> rfl

/-- A run in which an event of a tenant has happened, with the jobs that have
been added since. -/
structure Follows (run other : TimedRun Memory) (index : Nat) (after : Tenant.State)
    (added : List Job) : Prop where
  tenants : other.state.tenants = run.state.tenants.setIfInBounds index after
  raised : other.state.raised = run.state.raised
  /-- Who has waited waits still, unless it has its turn to come. -/
  parked : ∀ place, run.parked.contains place = true →
    other.parked.contains place = true ∨ Job.turn place ∈ added
  jobs : other.timeline.jobs.Perm (added ++ run.timeline.jobs)

namespace Follows

theorem known
    (follows : Follows run other index after added)
    (known : run.state.tenants[index]? = some before) :
    other.state.tenants[index]? = some after := by
  rw [follows.tenants]
  exact Array.getElem?_setIfInBounds_self_of_lt (Array.getElem?_eq_some_iff.mp known).1

theorem of_job
    {timeline : Timeline Job}
    {job : Job}
    (follows : Follows run other index after added)
    (more : timeline.jobs.Perm (job :: other.timeline.jobs)) :
    Follows run { other with timeline } index after (job :: added) where
  tenants := follows.tenants
  raised := follows.raised
  parked := fun place waits => (follows.parked place waits).imp id (List.mem_cons_of_mem _)
  jobs := more.trans (follows.jobs.cons job)

/-- A call that begins adds its end. -/
theorem beginCall
    (settings : Tenant.Settings)
    (calm : service.Calm)
    (follows : Follows run other index after added)
    (begun : Begun) :
    ∃ response : Response,
      Follows run (other.beginCall settings service begun) index after
        (.event begun.tenant (begun.ending response) :: added) := by
  rw [beginCall_of_calm calm]
  refine ⟨(service.respond other.memory begun.tenant begun.call).1, ?_⟩
  obtain ⟨tenants, raised, parked, jobs⟩ := follows.of_job (Timeline.perm_jobs_sleep ..)
  exact ⟨tenants, raised, parked, jobs⟩

/-- A tenant that has waited gets its turn. -/
theorem unpark
    (follows : Follows run other index after [])
    (same : other.parked = run.parked) :
    Follows run (other.unpark index) index after
      (if run.parked.contains index then [.turn index] else []) := by
  unfold TimedRun.unpark
  rw [same]
  split
  · obtain ⟨tenants, raised, parked, jobs⟩ :=
      follows.of_job (Timeline.perm_jobs_wake _ (.turn index))
    refine ⟨tenants, raised, ?_, jobs⟩
    intro place waits
    by_cases here : place = index
    · subst here
      exact Or.inr (List.mem_cons_self ..)
    · left
      simpa [here] using waits
  · exact follows

end Follows

/-! ## What follows an event -/

theorem followUp_of_job?_eq_none
    (known : run.state.tenants[index]? = some tenant)
    (idle : tenant.job? settings = none) :
    run.followUp settings index event = run := by
  simp [followUp, known, batch?_eq, idle]

/-- A batch that has begun lets its tenant go on. -/
theorem followUp_of_begins
    {job : Tenant.Job}
    (known : run.state.tenants[index]? = some tenant)
    (works : tenant.job? settings = some job)
    (single : event.isTurn = false)
    (isEvent : event.isAct = false) :
    run.followUp settings index event =
      { run with timeline := run.timeline.goOn (.turn index) } := by
  cases event with
  | batch => cases single
  | act => cases isEvent
  | begin | answered | gather => simp only [followUp, known, batch?_eq, works, Option.map_some]

/-! ## What an event leaves -/

/-- An event of a tenant happens and leaves its jobs. -/
def Performs (settings : Tenant.Settings) (service : Service Memory) (run : TimedRun Memory)
    (index : Nat) (before : Tenant.State) (event : Tenant.Event) (after : Tenant.State) : Prop :=
  ∃ added,
    Leaves settings run.state.raised index (run.parked.contains index) before event after added ∧
      Follows run (run.perform settings service index event) index after added

section Performs

variable {later : List Tenant.Task}
  (known : run.state.tenants[index]? = some before)
  (moves : before.step settings run.state.raised event = some (after, effects))
include known moves

/-- The step of an event, before its calls begin. -/
theorem exists_step :
    ∃ next : State,
      run.state.step settings (.tenant index event) = some (next, State.begun index effects) ∧
      Follows run { run with state := next } index after [] :=
  ⟨_, State.step_tenant known moves, rfl, rfl, fun _ => Or.inl, .refl _⟩

variable (service) in
/-- The step of an event in which no call begins, before anything follows. -/
theorem perform_of_silent
    (silent : State.begun index effects = []) :
    ∃ next : State,
      run.perform settings service index event =
        ({ run with state := next } : TimedRun Memory).followUp settings index event ∧
      Follows run { run with state := next } index after [] := by
  obtain ⟨next, steps, follows⟩ := exists_step known moves
  rw [silent] at steps
  exact ⟨next, by simp only [perform, steps, List.foldl_nil], follows⟩

variable (service) in
/-- The step of an event with the beginning of its call. -/
theorem perform_of_call
    {begun : Begun}
    (calm : service.Calm)
    (call : State.begun index effects = [begun]) :
    ∃ (between : TimedRun Memory) (response : Response),
      run.perform settings service index event = between.followUp settings index event ∧
      Follows run between index after [.event begun.tenant (begun.ending response)] := by
  obtain ⟨next, steps, stepped⟩ := exists_step known moves
  rw [call] at steps
  obtain ⟨response, follows⟩ := stepped.beginCall settings calm begun
  exact ⟨_, response, by simp only [perform, steps, List.foldl_cons, List.foldl_nil], follows⟩

/-- A tenant whose work is over leaves no job. -/
theorem performs_of_isOver
    (silent : State.begun index effects = [])
    (ended : after.isOver = true) :
    Performs settings service run index before event after := by
  obtain ⟨next, performs, follows⟩ := perform_of_silent service known moves silent
  refine ⟨[], .ended ended, ?_⟩
  rw [performs, followUp_of_job?_eq_none (follows.known known)
    (Tenant.State.job?_of_isOver ended)]
  exact follows

/-- A single call that begins leaves its end. -/
theorem performs_of_asking
    {ask : Tenant.Ask}
    (calm : service.Calm)
    (call : State.begun index effects = [⟨index, none, ask.call⟩])
    (asks : after.asking? = some ask) :
    Performs settings service run index before event after := by
  obtain ⟨between, response, performs, follows⟩ :=
    perform_of_call service known moves calm call
  refine ⟨_, .call ask (measured response.milliseconds) response.attempt asks, ?_⟩
  rw [performs, followUp_of_job?_eq_none (follows.known known)
    (Tenant.State.job?_of_asking asks)]
  exact follows

/-- The work goes on with the steps that are left. -/
theorem performs_of_enters
    {state : Tenant.State}
    {new : List Effect}
    (calm : service.Calm)
    (enters : Tenant.Enters settings run.state.raised state later after new)
    (shown : State.begun index effects = State.begun index new)
    (single : event.isTurn = false)
    (isEvent : event.isAct = false) :
    Performs settings service run index before event after := by
  cases enters with
  | finish | refuse => exact performs_of_isOver known moves shown rfl
  | crash task later crashed tables unfit =>
      exact performs_of_isOver known moves shown (by rw [Tenant.State.isOver, crashed])
  | call ask later asks ahead sited tables unopened =>
      exact performs_of_asking known moves calm shown asks
  | batch job later generators works ahead sited tables begins serves =>
      obtain ⟨next, performs, follows⟩ := perform_of_silent service known moves shown
      refine ⟨_, .batch job generators works begins, ?_⟩
      rw [performs, followUp_of_begins (follows.known known) works single isEvent]
      exact follows.of_job (Timeline.perm_jobs_goOn ..)

end Performs

/-! ## Turns of batches -/

/-- At the end of a call none begins. -/
theorem begun_returning
    (index : Nat)
    (origin : Tenant.Origin)
    (call : Api.Call)
    (duration : Metrics.Millis)
    (extra : List (String × Json))
    (attempt : Api.Attempt) :
    State.begun index (Tenant.returning origin call duration extra attempt) = [] := by
  cases attempt <;> rfl

theorem begun_itemEffects_finish
    (index : Nat)
    (task : Tenant.Task)
    (errand : Nat → Option Tenant.Errand)
    (duration : Metrics.Millis)
    (batch : Tenant.Calls)
    (item : Nat)
    (result : Api.Attempt) :
    State.begun index (Tenant.itemEffects task errand duration batch (.finish item result)) =
      [] := by
  simp only [Tenant.itemEffects]
  split
  · exact begun_returning ..
  · rfl

section Turn

variable {job : Tenant.Job} {duration : Metrics.Millis} {next : Tenant.Calls}
  {turn : Batch.Event Api.Reply Api.Error}
  (works : before.job? settings = some job)
  (enabled : job.batch.step job.settings run.state.raised turn = some next)
include works enabled

/-- A turn of a batch as a step of its tenant. -/
theorem step_of_turn
    (duration : Metrics.Millis) :
    before.step settings run.state.raised (.batch duration turn) =
      some (before.withBatch next,
        Tenant.itemEffects job.task job.errand duration job.batch turn.opening) := by
  simp only [Tenant.State.step, Tenant.State.inBatch_eq, works, enabled, Option.bind_some,
    Option.map_some]

variable (known : run.state.tenants[index]? = some before)
include known

/-- A turn in which no call begins leaves what follows it. -/
theorem performs_of_silent_turn
    {added : List Job}
    (silent : State.begun index
      (Tenant.itemEffects job.task job.errand duration job.batch turn.opening) = [])
    (adds : Adds index (run.parked.contains index) job.batch next turn added)
    (follows : ∀ state : State,
      state.tenants[index]? = some (before.withBatch next) →
      Follows run { run with state } index (before.withBatch next) [] →
      Follows run
        (({ run with state } : TimedRun Memory).followUp settings index (.batch duration turn))
        index (before.withBatch next) added) :
    Performs settings service run index before (.batch duration turn) (before.withBatch next) := by
  obtain ⟨state, performs, stepped⟩ :=
    perform_of_silent service known (step_of_turn works enabled duration) silent
  refine ⟨added, .turn job duration next works enabled adds, ?_⟩
  rw [performs]
  exact follows state (stepped.known known) stepped

/-- A turn in which an attempt begins leaves the end of its call. -/
theorem performs_of_attempt
    {item attempt : Nat}
    {generator : Random.Generator}
    (begun : Begun)
    (calm : service.Calm)
    (call : State.begun index
      (Tenant.itemEffects job.task job.errand duration job.batch turn.opening) = [begun])
    (its : begun.tenant = index ∧ begun.item = some item)
    (opens : turn = .start item ∨ turn = .resume item)
    (begins : next = job.batch.setCell item (.attempting attempt generator)) :
    Performs settings service run index before (.batch duration turn) (before.withBatch next) := by
  obtain ⟨tenant, place, call⟩ := begun
  obtain ⟨rfl, rfl⟩ := its
  obtain ⟨between, response, performs, follows⟩ :=
    perform_of_call service known (step_of_turn works enabled duration) calm call
  have adds : Adds tenant (run.parked.contains tenant) job.batch next turn _ :=
    .attempt item attempt generator (measured response.milliseconds) response.attempt opens begins
  refine ⟨_, .turn job duration next works enabled adds, ?_⟩
  rw [performs]
  have still : between.followUp settings tenant (.batch duration turn) = between := by
    have after := follows.known known
    have working := Tenant.State.job?_withBatch works next
    rcases opens with rfl | rfl <;> simp [followUp, after, batch?_eq, working]
  rw [still]
  exact follows

/-- A turn of a batch leaves what follows it. -/
theorem performs_of_turn
    (duration : Metrics.Millis)
    (calm : service.Calm)
    (errands : ∀ (item : Nat) (cell : Batch.Cell Api.Reply Api.Error),
      job.batch.cells[item]? = some cell → ∃ purpose, job.errand item = some purpose) :
    Performs settings service run index before (.batch duration turn) (before.withBatch next) := by
  cases Batch.Steps.of_step enabled with
  | refuse wanting heeds isRaised =>
      refine performs_of_silent_turn works enabled known rfl (.stop .shutdown rfl rfl) ?_
      intro state after follows
      have goesOn := follows.of_job (Timeline.perm_jobs_goOn run.timeline (.turn index))
      simpa [followUp, after, batch?_eq, Tenant.State.job?_withBatch works, Batch.State.stop]
        using goesOn
  | halt spared idle left positive halted =>
      refine performs_of_silent_turn works enabled known rfl (.stop .failure rfl rfl) ?_
      intro state after follows
      have goesOn := follows.of_job (Timeline.perm_jobs_goOn run.timeline (.turn index))
      simpa [followUp, after, batch?_eq, Tenant.State.job?_withBatch works, Batch.State.stop]
        using goesOn
  | launch generator spared idle left positive running found =>
      refine performs_of_silent_turn works enabled known rfl
        (.launch generator (by simp [Batch.State.stop, Batch.State.setCell, idle]) rfl) ?_
      intro state after follows
      have starts := follows.of_job (Timeline.perm_jobs_wake run.timeline
        (.event index (instant (.start job.batch.dispatched))))
      have goesOn := starts.of_job (Timeline.perm_jobs_goOn _ (.turn index))
      simpa [followUp, after, batch?_eq, Tenant.State.job?_withBatch works, Batch.State.stop,
        Batch.State.setCell, idle] using goesOn
  | start item generator found =>
      obtain ⟨purpose, given⟩ := errands item _ found
      refine performs_of_attempt works enabled known
        ⟨index, some item, purpose.call⟩ calm ?_ ⟨rfl, rfl⟩ (Or.inl rfl) rfl
      simp [Batch.Event.opening, Tenant.itemEffects, given, State.begun]
  | rest item attempt generator following delay result found backsOff =>
      refine performs_of_silent_turn works enabled known (begun_itemEffects_finish ..)
        (.rest item (attempt + 1) following delay result rfl) ?_
      intro state after follows
      have inside := (Array.getElem?_eq_some_iff.mp found).1
      have sleeps := follows.of_job (Timeline.perm_jobs_sleep run.timeline
        (.event index (instant (.resume item))) delay.timerMilliseconds)
      simpa [followUp, after, batch?_eq, Tenant.State.job?_withBatch works, inside] using sleeps
  | settle item attempt generator result ending found settles =>
      refine performs_of_silent_turn works enabled known (begun_itemEffects_finish ..)
        (.settle item job.batch.settledCount ending result rfl) ?_
      intro state after follows
      have inside := (Array.getElem?_eq_some_iff.mp found).1
      have unparks := follows.unpark rfl
      simpa [followUp, after, batch?_eq, Tenant.State.job?_withBatch works, inside] using unparks
  | resume item attempt delay generator found =>
      obtain ⟨purpose, given⟩ := errands item _ found
      refine performs_of_attempt works enabled known
        ⟨index, some item, purpose.call⟩ calm ?_ ⟨rfl, rfl⟩ (Or.inr rfl) rfl
      simp [Batch.Event.opening, Tenant.itemEffects, given, found, State.begun]

end Turn

/-! ## Any event -/

variable (service) in
/-- Every event that can happen leaves its jobs. -/
theorem performs_of_step
    {ahead : List Tenant.Task}
    {part : List Effect}
    (calm : service.Calm)
    (known : run.state.tenants[index]? = some before)
    (stands : Tenant.Stands settings run.state.raised before ahead part)
    (moves : before.step settings run.state.raised event = some (after, effects))
    (isEvent : event.isAct = false) :
    Performs settings service run index before event after := by
  cases Tenant.Moves.of_step moves with
  | refuse | unconnected | crashUnconnected => exact performs_of_isOver known moves rfl rfl
  | connect waits isUnraised =>
      have asks : (before.moveTo .signingUp).asking? =
          some ⟨.signUp, .signup before.identity, .signup before.identity.email⟩ := rfl
      exact performs_of_asking known moves calm rfl asks
  | answer ask duration reply asks =>
      obtain ⟨_, sited, _⟩ := stands.of_asking asks
      obtain ⟨later, isAhead, enters⟩ := Tenant.enters_resume run.state.raised reply asks sited
      refine performs_of_enters known moves calm enters ?_ rfl rfl
      rw [State.begun_append, begun_returning, List.nil_append]
  | fail | crash => exact performs_of_isOver known moves (begun_returning ..) rfl
  | act => cases isEvent
  | turn job duration turn next works enabled =>
      obtain ⟨_, _, _, _, _, _, _, conduct⟩ := stands.of_job works
      refine performs_of_turn works enabled known duration calm ?_
      intro item cell found
      obtain ⟨purpose, given, _⟩ := conduct.threads item cell found
      exact ⟨purpose, given⟩
  | gathered job values works complete isOk =>
      obtain ⟨_, sited, _⟩ := stands.of_job works
      obtain ⟨later, isAhead, enters⟩ := Tenant.enters_afterBatch run.state.raised works sited
      exact performs_of_enters known moves calm enters rfl rfl rfl
  | spoiled => exact performs_of_isOver known moves rfl rfl

/-! ## Any job -/

/-- Every tenant stands somewhere in its plan. -/
def Placed (settings : Tenant.Settings) (run : TimedRun Memory) : Prop :=
  ∀ (index : Nat) (tenant : Tenant.State), run.state.tenants[index]? = some tenant →
    ∃ ahead part, Tenant.Stands settings run.state.raised tenant ahead part

/-- What a job comes to: nothing, because the event that it is for cannot happen;
a tenant that waits; or an event of the tenant with the jobs that it leaves. -/
inductive Works (settings : Tenant.Settings) (service : Service Memory) (run : TimedRun Memory) :
    Job → TimedRun Memory → Prop
  | nothing
      {job : Job}
      (still : ∀ tenant, run.state.tenants[job.tenant]? = some tenant → ∃ event,
        tenant.step settings run.state.raised event = none ∧
          (job = .event job.tenant event ∨
            nextEvent? settings service run.state.raised tenant = some event)) :
      Works settings service run job run
  | park
      (index : Nat)
      (tenant : Tenant.State)
      (known : run.state.tenants[index]? = some tenant)
      (idle : nextEvent? settings service run.state.raised tenant = none) :
      Works settings service run (.turn index) { run with parked := run.parked ++ [index] }
  | perform
      {job : Job}
      {other : TimedRun Memory}
      (index : Nat)
      (before after : Tenant.State)
      (event : Tenant.Event)
      (effects : List Effect)
      (added : List Job)
      (known : run.state.tenants[index]? = some before)
      (moves : Tenant.Moves settings run.state.raised before event after effects)
      (cause : job = .event index event ∨
        job = .turn index ∧ nextEvent? settings service run.state.raised before = some event)
      (leaves : Leaves settings run.state.raised index (run.parked.contains index) before event
        after added)
      (follows : Follows run other index after added) :
      Works settings service run job other

/-- What a tenant goes on with in its turn: it begins, dispatches an item or
gathers. -/
theorem nextEvent?_cases
    {raised : Bool}
    (next : nextEvent? settings service raised tenant = some event) :
    tenant.position = .waiting ∧ event = .begin (service.connect tenant.index) ∨
      ∃ job, tenant.job? settings = some job ∧
        (job.batch.canDispatch job.settings raised = true ∧ event = instant .dispatch ∨
          job.batch.isOver = true ∧ event = .gather) := by
  unfold nextEvent? at next
  split at next
  · rename_i waits
    exact Or.inl ⟨waits, (Option.some.inj next).symm⟩
  · right
    rw [batch?_eq] at next
    cases works : tenant.job? settings with
    | none => simp [works] at next
    | some job =>
        refine ⟨job, rfl, ?_⟩
        simp only [works, Option.map_some] at next
        split at next
        · rename_i can
          exact Or.inl ⟨can, (Option.some.inj next).symm⟩
        · split at next
          · rename_i ended
            exact Or.inr ⟨ended, (Option.some.inj next).symm⟩
          · cases next

/-- Who can do nothing can neither dispatch an item nor gather. -/
theorem idle_of_nextEvent?_eq_none
    {raised : Bool}
    {job : Tenant.Job}
    (works : tenant.job? settings = some job)
    (idle : nextEvent? settings service raised tenant = none) :
    job.batch.canDispatch job.settings raised = false ∧ job.batch.isOver = false := by
  unfold nextEvent? at idle
  split at idle
  · cases idle
  · simp only [batch?_eq, works, Option.map_some] at idle
    split at idle
    · cases idle
    · rename_i cannot
      split at idle
      · cases idle
      · rename_i going
        exact ⟨Bool.eq_false_iff.mpr cannot, Bool.eq_false_iff.mpr going⟩

theorem nextEvent?_isAct
    {raised : Bool}
    (next : nextEvent? settings service raised tenant = some event) :
    event.isAct = false := by
  rcases nextEvent?_cases next with ⟨_, rfl⟩ | ⟨_, _, ⟨_, rfl⟩ | ⟨_, rfl⟩⟩ <;> rfl

/-- An event that something causes happens and leaves its jobs, or cannot
happen. -/
theorem works_perform
    {job : Job}
    (calm : service.Calm)
    (placed : run.Placed settings)
    (here : job.tenant = index)
    (isEvent : event.isAct = false)
    (cause : ∀ tenant, run.state.tenants[index]? = some tenant →
      job = .event index event ∨
        job = .turn index ∧ nextEvent? settings service run.state.raised tenant = some event) :
    Works settings service run job (run.perform settings service index event) := by
  subst here
  cases known : run.state.tenants[job.tenant]? with
  | none =>
      have same : run.perform settings service job.tenant event = run := by
        simp [perform, State.step, known]
      rw [same]
      exact .nothing (by simp [known])
  | some before =>
      have causes := cause before known
      cases moves : before.step settings run.state.raised event with
      | none =>
          have same : run.perform settings service job.tenant event = run := by
            simp [perform, State.step, known, moves]
          rw [same]
          refine .nothing ?_
          intro tenant found
          rw [known, Option.some.injEq] at found
          subst found
          exact ⟨event, moves, causes.imp id And.right⟩
      | some moved =>
          obtain ⟨after, effects⟩ := moved
          obtain ⟨ahead, part, stands⟩ := placed _ before known
          obtain ⟨added, leaves, follows⟩ :=
            performs_of_step service calm known stands moves isEvent
          exact .perform _ before after event effects added known (.of_step moves) causes leaves
            follows

/-- Every job comes to one of the cases. -/
theorem works_runJob
    {job : Job}
    (calm : service.Calm)
    (placed : run.Placed settings)
    (isEvent : job.isAct = false) :
    Works settings service run job (run.runJob settings service job) := by
  cases job with
  | event tenant event => exact works_perform calm placed rfl isEvent fun _ _ => Or.inl rfl
  | turn index =>
      change Works settings service run (.turn index) (run.turn settings service index)
      unfold turn
      cases known : run.state.tenants[index]? with
      | none => exact .nothing (by simp [Job.tenant, known])
      | some tenant =>
          dsimp only
          cases next : nextEvent? settings service run.state.raised tenant with
          | none => exact .park index tenant known next
          | some event =>
              refine works_perform calm placed rfl (nextEvent?_isAct next) ?_
              intro _ found
              rw [known, Option.some.injEq] at found
              subst found
              exact Or.inr ⟨rfl, next⟩

end TimedRun
end Run
end TenantLoad
