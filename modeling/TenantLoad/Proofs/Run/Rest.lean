import TenantLoad.Proofs.Run.Jobs

/-!
# A run rests only when it is over

What a tenant at work waits for is to come: its turn, the answer to its call,
or of every item in a slot the event that the item waits for.  Every job keeps
this, of its own tenant and of the others.  So where no job is left, no tenant
is at work.
-/

namespace TenantLoad
namespace Run

/-- A batch with all that its tenant and its items wait for among the jobs. -/
structure Tended (settings : Batch.Settings) (raised : Bool) (index : Nat) (parked : Bool)
    (jobs : List Job) (batch : Tenant.Calls) : Prop where
  calm : Batch.Calm batch
  /-- The tenant has its turn to come, unless it waits and can do nothing. -/
  tenant : Job.turn index ∈ jobs ∨
    parked = true ∧ batch.canDispatch settings raised = false ∧ batch.isOver = false
  items : ∀ (item : Nat) (cell : Batch.Cell Api.Reply Api.Error),
    batch.cells[item]? = some cell → cell.holdsSlot = true →
      ∃ duration event, cell.Awaits item event ∧ Job.event index (.batch duration event) ∈ jobs

/-- A tenant with all that it waits for among the jobs. -/
structure Attended (settings : Tenant.Settings) (raised : Bool) (index : Nat) (parked : Bool)
    (jobs : List Job) (tenant : Tenant.State) : Prop where
  waiting : tenant.position = .waiting → Job.turn index ∈ jobs
  asking : ∀ ask, tenant.asking? = some ask →
    ∃ duration attempt, Job.event index (.answered duration attempt) ∈ jobs
  working : ∀ job, tenant.job? settings = some job →
    Tended job.settings raised index parked jobs job.batch

/-! ## More jobs -/

section More

variable {raised parked parkedToo : Bool} {index : Nat} {jobs more : List Job}
  (kept : ∀ job ∈ jobs, job.tenant = index → job ∈ more)
  (waits : parked = true → parkedToo = true ∨ Job.turn index ∈ more)
include kept waits

theorem Tended.mono
    {settings : Batch.Settings}
    {batch : Tenant.Calls}
    (tended : Tended settings raised index parked jobs batch) :
    Tended settings raised index parkedToo more batch where
  calm := tended.calm
  tenant := by
    rcases tended.tenant with turn | ⟨isParked, cannot, going⟩
    · exact Or.inl (kept _ turn rfl)
    · rcases waits isParked with stays | turn
      · exact Or.inr ⟨stays, cannot, going⟩
      · exact Or.inl turn
  items := by
    intro item cell found holds
    obtain ⟨duration, event, awaits, member⟩ := tended.items item cell found holds
    exact ⟨duration, event, awaits, kept _ member rfl⟩

/-- More jobs of the tenant leave it attended. -/
theorem Attended.mono
    {settings : Tenant.Settings}
    {tenant : Tenant.State}
    (attended : Attended settings raised index parked jobs tenant) :
    Attended settings raised index parkedToo more tenant where
  waiting := fun waits => kept _ (attended.waiting waits) rfl
  asking := by
    intro ask asks
    obtain ⟨duration, attempt, member⟩ := attended.asking ask asks
    exact ⟨duration, attempt, kept _ member rfl⟩
  working := fun job works => (attended.working job works).mono kept waits

end More

/-! ## A job that comes to nothing -/

section

variable {settings : Tenant.Settings} {raised parked parkedToo : Bool} {index : Nat}
  {jobs added : List Job} {before after tenant : Tenant.State} {event : Tenant.Event}
  {job : Job}

/-- A tenant whose work is over waits for nothing. -/
theorem Attended.of_isOver
    (ended : tenant.isOver = true) :
    Attended settings raised index parked jobs tenant where
  waiting := by
    intro waits
    simp [Tenant.State.isOver, waits] at ended
  asking := by
    intro ask asks
    rw [Tenant.State.isOver_of_asking asks] at ended
    cases ended
  working := by
    intro job works
    rw [Tenant.State.isOver_of_job works] at ended
    cases ended

/-- Nobody waits for an event that cannot happen. -/
theorem Attended.of_still
    (attended : Attended settings raised index parked (.event index event :: jobs) tenant)
    (still : tenant.step settings raised event = none) :
    Attended settings raised index parked jobs tenant where
  waiting := by
    intro waits
    simpa using attended.waiting waits
  asking := by
    intro ask asks
    obtain ⟨duration, attempt, member⟩ := attended.asking ask asks
    rcases List.mem_cons.mp member with same | member
    · cases same
      simp [Tenant.State.step, Tenant.State.answered_eq, asks] at still
    · exact ⟨duration, attempt, member⟩
  working := by
    intro job works
    obtain ⟨calm, tenant, items⟩ := attended.working job works
    refine ⟨calm, by simpa using tenant, ?_⟩
    intro item cell found holds
    obtain ⟨duration, turn, awaits, member⟩ := items item cell found holds
    rcases List.mem_cons.mp member with same | member
    · cases same
      have enabled : (job.batch.step job.settings raised turn).isSome = true :=
        awaits.isSome_step found
      simp only [Tenant.State.step, Tenant.State.inBatch_eq, works, Option.bind_some,
        Option.map_eq_none_iff] at still
      rw [still] at enabled
      cases enabled
    · exact ⟨duration, turn, awaits, member⟩

end

/-! ## A turn of a batch -/

section

variable {settings : Batch.Settings} {raised parked parkedToo : Bool} {index item : Nat}
  {jobs added : List Job} {batch next : Tenant.Calls} {cell : Batch.Cell Api.Reply Api.Error}
  {event : Batch.Event Api.Reply Api.Error} {duration : Metrics.Millis} {job : Job}

/-- What an item waits for is still to come when another job has run. -/
theorem Tended.of_other
    (tended : Tended settings raised index parked (job :: jobs) batch)
    (found : batch.cells[item]? = some cell)
    (holds : cell.holdsSlot = true)
    (other : ∀ duration event, cell.Awaits item event →
      job ≠ .event index (.batch duration event)) :
    ∃ duration event, cell.Awaits item event ∧
      Job.event index (.batch duration event) ∈ added ++ jobs := by
  obtain ⟨duration, event, awaits, member⟩ := tended.items item cell found holds
  rcases List.mem_cons.mp member with rfl | member
  · exact absurd rfl (other duration event awaits)
  · exact ⟨duration, event, awaits, List.mem_append_right _ member⟩

/-- A turn of a batch that does not dispatch leaves its tenant with its turn or
waiting. -/
theorem Tended.tenant_of_event
    (tended : Tended settings raised index parked (.event index (.batch duration event) :: jobs)
      batch)
    (waits : parked = true → parkedToo = true ∨ Job.turn index ∈ added) :
    Job.turn index ∈ added ++ jobs ∨
      parkedToo = true ∧ batch.canDispatch settings raised = false ∧ batch.isOver = false := by
  rcases tended.tenant with turn | ⟨isParked, cannot, going⟩
  · have later : Job.turn index ∈ jobs := by simpa using turn
    exact Or.inl (List.mem_append_right _ later)
  · rcases waits isParked with stays | turn
    · exact Or.inr ⟨stays, cannot, going⟩
    · exact Or.inl (List.mem_append_left _ turn)

/-- The items of a batch have what they wait for after one of them has moved. -/
theorem Tended.items_of_set
    {after : Batch.Cell Api.Reply Api.Error}
    (tended : Tended settings raised index parked (job :: jobs) batch)
    (cells : next.cells = batch.cells.setIfInBounds item after)
    (mover : ∀ duration event, job = .event index (.batch duration event) →
      ∀ (other : Nat) (cell : Batch.Cell Api.Reply Api.Error), cell.Awaits other event →
        other = item)
    (own : after.holdsSlot = true → ∃ duration event, after.Awaits item event ∧
      Job.event index (.batch duration event) ∈ added)
    (other : Nat)
    (cell : Batch.Cell Api.Reply Api.Error)
    (found : next.cells[other]? = some cell)
    (holds : cell.holdsSlot = true) :
    ∃ duration event, cell.Awaits other event ∧
      Job.event index (.batch duration event) ∈ added ++ jobs := by
  rw [cells] at found
  by_cases same : item = other
  · subst same
    have inside : item < batch.cells.size := by
      simpa using (Array.getElem?_eq_some_iff.mp found).1
    rw [Array.getElem?_setIfInBounds_self_of_lt inside, Option.some.injEq] at found
    subst found
    obtain ⟨duration, event, awaits, member⟩ := own holds
    exact ⟨duration, event, awaits, List.mem_append_left _ member⟩
  · rw [Array.getElem?_setIfInBounds_ne same] at found
    refine tended.of_other found holds ?_
    intro duration event awaits isJob
    exact same (mover duration event isJob other cell awaits).symm

/-- What a turn of a batch adds is what its tenant and its items wait for. -/
theorem Tended.of_adds
    {parkedToo : Bool}
    (duration : Metrics.Millis)
    (tended : Tended settings raised index parked (job :: jobs) batch)
    (enabled : batch.step settings raised event = some next)
    (adds : Adds index parked batch next event added)
    (cause : job = .event index (.batch duration event) ∨ job = .turn index ∧ event = .dispatch)
    (waits : parked = true → parkedToo = true ∨ Job.turn index ∈ added) :
    Tended settings raised index parkedToo (added ++ jobs) next := by
  have calm := tended.calm.step (.of_step enabled)
  -- No item waits for a dispatch, and nothing else happens in a turn of the tenant.
  have elsewhere : event = .dispatch → ∀ (item : Nat) (cell : Batch.Cell Api.Reply Api.Error)
      duration turn, cell.Awaits item turn → job ≠ .event index (.batch duration turn) := by
    rintro rfl item cell later turn awaits rfl
    rcases cause with same | ⟨same, _⟩
    · cases same
      cases awaits
    · cases same
  have itself : event ≠ .dispatch → job = .event index (.batch duration event) :=
    fun other => cause.resolve_right fun dispatches => other dispatches.2
  cases adds with
  | stop reason stops cells =>
      refine ⟨calm, Or.inl (List.mem_append_left _ (List.mem_cons_self ..)), ?_⟩
      intro item cell found holds
      rw [cells] at found
      exact tended.of_other found holds (elsewhere rfl item cell)
  | launch generator going cells =>
      refine ⟨calm, Or.inl (List.mem_append_left _ (List.mem_cons_self ..)), ?_⟩
      refine tended.items_of_set cells ?_ fun _ =>
        ⟨_, _, .start generator, List.mem_cons_of_mem _ (List.mem_singleton.mpr rfl)⟩
      intro later turn isJob other cell awaits
      exact absurd isJob (elsewhere rfl other cell later turn awaits)
  | attempt item attempt generator later result opens begins =>
      subst begins
      obtain rfl := itself (by rcases opens with rfl | rfl <;> simp)
      refine ⟨calm, ?_, ?_⟩
      · rw [Batch.State.canDispatch_setCell, Batch.State.isOver_setCell]
        exact tended.tenant_of_event waits
      · refine tended.items_of_set rfl ?_ fun _ =>
          ⟨later, _, .finish attempt generator result, List.mem_singleton.mpr rfl⟩
        intro _ _ same other cell awaits
        cases same
        rcases opens with rfl | rfl <;> cases awaits <;> rfl
  | rest item attempt generator delay result rests =>
      subst rests
      obtain rfl := itself (by simp)
      refine ⟨calm, ?_, ?_⟩
      · rw [Batch.State.canDispatch_setCell, Batch.State.isOver_setCell]
        exact tended.tenant_of_event waits
      · refine tended.items_of_set rfl ?_ fun _ =>
          ⟨_, _, .resume attempt delay generator, List.mem_singleton.mpr rfl⟩
        intro _ _ same other cell awaits
        cases same
        cases awaits
        rfl
  | settle item order ending result cells =>
      obtain rfl := itself (by simp)
      refine ⟨calm, Or.inl ?_, ?_⟩
      · cases parked with
        | true => exact List.mem_append_left _ (List.mem_singleton.mpr rfl)
        | false =>
            rcases tended.tenant with turn | ⟨isParked, _⟩
            · exact List.mem_append_right _ (by simpa using turn)
            · cases isParked
      · refine tended.items_of_set cells ?_ fun holds => by cases holds
        intro _ _ same other cell awaits
        cases same
        cases awaits
        rfl

end

/-! ## An event -/

section

variable {Memory : Type} {settings : Tenant.Settings} {service : Service Memory}
  {raised parked parkedToo : Bool} {index : Nat} {jobs added : List Job}
  {before after tenant : Tenant.State} {event : Tenant.Event} {job : Job}

/-- Who runs a batch that is tended waits for nothing else. -/
theorem Attended.of_tended
    {job : Tenant.Job}
    (works : tenant.job? settings = some job)
    (tended : Tended job.settings raised index parked jobs job.batch) :
    Attended settings raised index parked jobs tenant where
  waiting := by
    intro waits
    simp [Tenant.State.job?, waits] at works
  asking := by
    intro ask asks
    rw [Tenant.State.job?_of_asking asks] at works
    cases works
  working := by
    intro other same
    rw [works, Option.some.injEq] at same
    subst same
    exact tended

/-- An event leaves no single act of a batch. -/
theorem Leaves.isAct
    (leaves : Leaves settings raised index parked before event after added)
    (member : job ∈ added) :
    job.isAct = false := by
  cases leaves with
  | ended => cases member
  | call | batch =>
      obtain rfl := List.mem_singleton.mp member
      rfl
  | turn _ _ _ _ _ adds =>
      cases adds with
      | stop | attempt | rest =>
          obtain rfl := List.mem_singleton.mp member
          rfl
      | launch =>
          rcases List.mem_cons.mp member with rfl | member
          · rfl
          · obtain rfl := List.mem_singleton.mp member
            rfl
      | settle =>
          split at member
          · obtain rfl := List.mem_singleton.mp member
            rfl
          · cases member

/-- What an event leaves is what its tenant waits for. -/
theorem Attended.of_leaves
    (attended : Attended settings raised index parked (job :: jobs) before)
    (leaves : Leaves settings raised index parked before event after added)
    (cause : job = .event index event ∨
      job = .turn index ∧ TimedRun.nextEvent? settings service raised before = some event)
    (waits : parked = true → parkedToo = true ∨ Job.turn index ∈ added) :
    Attended settings raised index parkedToo (added ++ jobs) after := by
  cases leaves with
  | ended isOver => exact .of_isOver isOver
  | call ask duration attempt asks =>
      refine ⟨?_, fun _ _ => ⟨duration, attempt, List.mem_cons_self ..⟩, ?_⟩
      · intro waits
        simp [Tenant.State.asking?, waits] at asks
      · intro job works
        rw [Tenant.State.job?_of_asking asks] at works
        cases works
  | batch job generators works begins =>
      obtain initial := Batch.State.eq_initial_of_begin?_eq_some begins
      refine .of_tended works ⟨?_, Or.inl (List.mem_cons_self ..), ?_⟩
      · rw [initial]
        exact .initial job.settings generators
      · intro item cell found holds
        rw [initial] at found
        obtain ⟨generator, rfl⟩ := Batch.State.eq_waiting_of_initial found
        cases holds
  | turn job duration next works enabled adds =>
      refine .of_tended (Tenant.State.job?_withBatch works next)
        (.of_adds duration (attended.working job works) enabled adds ?_ waits)
      refine cause.imp id ?_
      rintro ⟨rfl, turns⟩
      rcases TimedRun.nextEvent?_cases turns with ⟨_, same⟩ | ⟨_, _, ⟨_, same⟩ | ⟨_, same⟩⟩
      · cases same
      · cases same
        exact ⟨rfl, rfl⟩
      · cases same

/-- What a tenant goes on with in its turn can happen. -/
theorem Attended.isSome_step
    {ahead : List Tenant.Task}
    {part : List Tenant.Effect}
    (attended : Attended settings raised index parked jobs tenant)
    (stands : Tenant.Stands settings raised tenant ahead part)
    (next : TimedRun.nextEvent? settings service raised tenant = some event) :
    (tenant.step settings raised event).isSome = true := by
  rcases TimedRun.nextEvent?_cases next with ⟨waits, rfl⟩ | ⟨job, works, cases⟩
  · simp [Tenant.State.step, waits]
  · have calm := (attended.working job works).calm
    obtain ⟨_, _, _, _, _, _, _, conduct⟩ := stands.of_job works
    obtain ⟨_, _, _, begins, runs, _⟩ := conduct.ran
    rcases cases with ⟨can, rfl⟩ | ⟨ended, rfl⟩
    · have waits := (Batch.World.traces_of_run begins runs).exists_waiting
      have enabled : (job.batch.step job.settings raised .dispatch).isSome = true :=
        calm.isSome_dispatch waits can
      simpa [TimedRun.instant, Tenant.State.step, Tenant.State.inBatch_eq, works] using enabled
    · have complete := calm.isComplete_of_isOver begins runs ended
      simp only [Tenant.State.step, Tenant.State.gather_eq, works, Option.bind_some]
      rw [if_pos complete]
      split <;> rfl

/-- A tenant that can do nothing in its turn waits. -/
theorem Attended.of_park
    (attended : Attended settings raised index parked (.turn index :: jobs) tenant)
    (idle : TimedRun.nextEvent? settings service raised tenant = none) :
    Attended settings raised index true jobs tenant where
  waiting := by
    intro waits
    simp [TimedRun.nextEvent?, waits] at idle
  asking := by
    intro ask asks
    obtain ⟨duration, attempt, member⟩ := attended.asking ask asks
    exact ⟨duration, attempt, by simpa using member⟩
  working := by
    intro job works
    obtain ⟨calm, _, items⟩ := attended.working job works
    refine ⟨calm, Or.inr ⟨rfl, TimedRun.idle_of_nextEvent?_eq_none works idle⟩, ?_⟩
    intro item cell found holds
    obtain ⟨duration, event, awaits, member⟩ := items item cell found holds
    exact ⟨duration, event, awaits, by simpa using member⟩

end

/-! ## A job -/

namespace TimedRun

variable {Memory : Type} {settings : Tenant.Settings} {service : Service Memory}
  {run other : TimedRun Memory} {index : Nat} {job : Job} {jobs : List Job}

/-- Whether a tenant has all that it waits for among some jobs. -/
def AttendsWith (settings : Tenant.Settings) (index : Nat) (jobs : List Job)
    (run : TimedRun Memory) : Prop :=
  ∀ tenant, run.state.tenants[index]? = some tenant →
    Attended settings run.state.raised index (run.parked.contains index) jobs tenant

/-- A job of another tenant leaves a tenant attended. -/
theorem Works.attends_other
    (works : Works settings service run job other)
    (attends : run.AttendsWith settings index (job :: run.timeline.jobs))
    (different : job.tenant ≠ index) :
    other.AttendsWith settings index other.timeline.jobs := by
  have without : run.AttendsWith settings index run.timeline.jobs := by
    intro tenant known
    refine (attends tenant known).mono ?_ Or.inl
    intro its member own
    rcases List.mem_cons.mp member with rfl | member
    · exact absurd own different
    · exact member
  cases works with
  | nothing => exact without
  | park place tenant known idle =>
      intro tenant known
      refine (without tenant known).mono (fun _ member _ => member) ?_
      intro waits
      left
      simp only [List.contains_eq_mem, List.mem_append, decide_eq_true_eq] at waits ⊢
      exact Or.inl waits
  | perform place before after event effects added found moves cause leaves follows =>
      have here : place ≠ index := by
        rcases cause with rfl | ⟨rfl, _⟩ <;> exact different
      intro tenant known
      rw [follows.tenants, Array.getElem?_setIfInBounds_ne here] at known
      rw [follows.raised]
      refine (without tenant known).mono ?_ ?_
      · exact fun its member _ => follows.jobs.mem_iff.mpr (List.mem_append_right _ member)
      · intro waits
        exact (follows.parked index waits).imp id fun member =>
          follows.jobs.mem_iff.mpr (List.mem_append_left _ member)

/-- A job of the tenant itself leaves it attended. -/
theorem Works.attends_own
    (works : Works settings service run job other)
    (placed : run.Placed settings)
    (attends : run.AttendsWith settings job.tenant (job :: run.timeline.jobs)) :
    other.AttendsWith settings job.tenant other.timeline.jobs := by
  cases works with
  | nothing still =>
      intro tenant known
      obtain ⟨event, none, cause⟩ := still tenant known
      have attended := attends tenant known
      rcases cause with isEvent | next
      · rw [isEvent] at attended
        exact attended.of_still none
      · obtain ⟨_, _, stands⟩ := placed _ tenant known
        have enabled := attended.isSome_step stands next
        rw [none] at enabled
        cases enabled
  | park place before known idle =>
      intro tenant found
      have same : tenant = before := Option.some.inj (found.symm.trans known)
      subst same
      have waits : (run.parked ++ [place]).contains place = true := by simp
      change Attended settings run.state.raised place ((run.parked ++ [place]).contains place)
        run.timeline.jobs tenant
      rw [waits]
      exact (attends tenant found).of_park idle
  | perform place before after event effects added known moves cause leaves follows =>
      obtain rfl : place = job.tenant := by
        rcases cause with rfl | ⟨rfl, _⟩ <;> rfl
      intro tenant found
      rw [follows.known known, Option.some.injEq] at found
      subst found
      rw [follows.raised]
      have attended := (attends before known).of_leaves leaves cause (follows.parked job.tenant)
      exact attended.mono (fun its member _ => follows.jobs.mem_iff.mpr member) Or.inl

/-- Every job leaves a tenant attended. -/
theorem Works.attends
    (works : Works settings service run job other)
    (placed : run.Placed settings)
    (attends : run.AttendsWith settings index (job :: run.timeline.jobs)) :
    other.AttendsWith settings index other.timeline.jobs := by
  by_cases here : job.tenant = index
  · subst here
    exact works.attends_own placed attends
  · exact works.attends_other attends here

/-- No job adds a single act of a batch. -/
theorem Works.isAct
    (works : Works settings service run job other)
    (events : ∀ job ∈ run.timeline.jobs, job.isAct = false)
    (later : Job)
    (member : later ∈ other.timeline.jobs) :
    later.isAct = false := by
  cases works with
  | nothing => exact events later member
  | park => exact events later member
  | perform index before after event effects added known moves cause leaves follows =>
      rcases List.mem_append.mp (follows.jobs.mem_iff.mp member) with new | old
      · exact leaves.isAct new
      · exact events later old

/-! ## A schedule -/

/-- A run under way of tenants that began with nothing done.  None of its jobs is
a single act of a batch. -/
structure Regular (settings : Tenant.Settings) (run : TimedRun Memory) : Prop where
  orderly : ∃ count generator recorder raised,
    run.Orderly settings (.initial count generator recorder raised)
  events : ∀ job ∈ run.timeline.jobs, job.isAct = false

namespace Regular

/-- In a run under way every tenant stands somewhere in its plan. -/
theorem placed
    (regular : run.Regular settings) :
    run.Placed settings := by
  obtain ⟨count, generator, recorder, raised, _, events, begins, runs⟩ := regular.orderly
  intro index tenant known
  have inside : index < count := by
    rw [← (State.numbers_of_run runs).size]
    exact (Array.getElem?_eq_some_iff.mp known).1
  obtain ⟨after, effects, share⟩ :=
    State.share_of_run runs (State.tenants_initial inside generator recorder raised)
  rw [share.known, Option.some.injEq] at known
  subst known
  obtain ⟨_, ahead, _, part, journey⟩ := Tenant.World.travels_of_run share.runs
  exact ⟨ahead, part, journey.stands⟩

/-- Without one of its jobs a run is as regular. -/
theorem withReady
    {before after : List Job}
    (regular : run.Regular settings)
    (ready : run.timeline.ready = before ++ job :: after) :
    (run.withReady (before ++ after)).Regular settings ∧ job.isAct = false ∧
      run.timeline.jobs.Perm (job :: (run.withReady (before ++ after)).timeline.jobs) := by
  have popped : run.timeline.jobs.Perm
      (job :: (run.withReady (before ++ after)).timeline.jobs) := by
    simp only [Timeline.jobs, TimedRun.withReady, ready]
    exact List.perm_middle.append_right _
  refine ⟨⟨regular.orderly, ?_⟩, ?_, popped⟩
  · exact fun other member =>
      regular.events other (popped.mem_iff.mpr (List.mem_cons_of_mem _ member))
  · exact regular.events job (popped.mem_iff.mpr (List.mem_cons_self ..))

theorem awaken
    (regular : run.Regular settings) :
    run.awaken.Regular settings := by
  obtain ⟨count, generator, recorder, raised, orderly⟩ := regular.orderly
  refine ⟨⟨count, generator, recorder, raised, orderly.awaken⟩, ?_⟩
  exact fun job member =>
    regular.events job ((Timeline.perm_jobs_awaken run.timeline).mem_iff.mp member)

/-- Every step of a schedule keeps a run regular. -/
theorem of_advances
    (regular : run.Regular settings)
    (calm : service.Calm)
    (advances : Advances settings service run other) :
    other.Regular settings := by
  cases advances with
  | work before after job ready first =>
      obtain ⟨popped, isEvent, _⟩ := regular.withReady ready
      obtain ⟨count, generator, recorder, raised, orderly⟩ := popped.orderly
      refine ⟨⟨count, generator, recorder, raised, orderly.runJob calm job⟩, ?_⟩
      exact (works_runJob calm popped.placed isEvent).isAct popped.events
  | wait idle => exact regular.awaken

theorem of_reachable
    (regular : run.Regular settings)
    (calm : service.Calm)
    (reaches : Relation.ReflTransGen (Advances settings service) run other) :
    other.Regular settings := by
  induction reaches with
  | refl => exact regular
  | tail _ advances inductionHypothesis => exact inductionHypothesis.of_advances calm advances

/-- A run that has not begun is regular. -/
theorem of_initial
    {count : Nat}
    {generator : Nat → Random.Generator}
    {recorder : Metrics.Recorder}
    {raised : Bool}
    {memory : Memory}
    (turns : List Nat) :
    Regular settings
      { timeline := .start (turns.map Job.turn)
        state := .initial count generator recorder raised
        parked := []
        memory : TimedRun Memory } where
  orderly := ⟨count, generator, recorder, raised, Timeline.inOrder_start _, [], [], rfl⟩
  events := by
    intro job member
    rw [Timeline.jobs_start] at member
    obtain ⟨place, _, rfl⟩ := List.mem_map.mp member
    rfl

end Regular

/-- Whether a tenant has all that it waits for to come. -/
def Attends (settings : Tenant.Settings) (index : Nat) (run : TimedRun Memory) : Prop :=
  run.AttendsWith settings index run.timeline.jobs

/-- Every step of a schedule leaves a tenant attended. -/
theorem Attends.of_advances
    (attends : run.Attends settings index)
    (regular : run.Regular settings)
    (calm : service.Calm)
    (advances : Advances settings service run other) :
    other.Attends settings index := by
  cases advances with
  | work before after job ready first =>
      obtain ⟨regularPopped, isEvent, popped⟩ := regular.withReady ready
      refine (works_runJob calm regularPopped.placed isEvent).attends regularPopped.placed ?_
      intro tenant known
      exact (attends tenant known).mono (fun _ member _ => popped.mem_iff.mp member) Or.inl
  | wait idle =>
      have same := Timeline.perm_jobs_awaken run.timeline
      intro tenant known
      exact (attends tenant known).mono (fun _ member _ => same.mem_iff.mpr member) Or.inl

theorem Attends.of_reachable
    (attends : run.Attends settings index)
    (regular : run.Regular settings)
    (calm : service.Calm)
    (reaches : Relation.ReflTransGen (Advances settings service) run other) :
    other.Attends settings index := by
  induction reaches with
  | refl => exact attends
  | tail past advances inductionHypothesis =>
      exact inductionHypothesis.of_advances (regular.of_reachable calm past) calm advances

/-- A run that has not begun attends to every tenant with its turn to come. -/
theorem attends_of_initial
    {count : Nat}
    {generator : Nat → Random.Generator}
    {recorder : Metrics.Recorder}
    {raised : Bool}
    {turns : List Nat}
    {memory : Memory}
    (turn : index ∈ turns) :
    Attends settings index
      { timeline := .start (turns.map Job.turn)
        state := .initial count generator recorder raised
        parked := []
        memory : TimedRun Memory } := by
  intro tenant known
  have inside : index < count := by
    simpa [State.initial] using (Array.getElem?_eq_some_iff.mp known).1
  rw [State.tenants_initial inside, Option.some.injEq, Tenant.initial_eq] at known
  subst known
  refine ⟨fun _ => ?_, fun ask asks => ?_, fun job works => ?_⟩
  · rw [Timeline.jobs_start]
    exact List.mem_map_of_mem turn
  · cases asks
  · cases works

/-- Where nothing is left to come a tenant that is attended is done. -/
theorem Attends.isOver_of_rests
    {tenant : Tenant.State}
    (attends : run.Attends settings index)
    (regular : run.Regular settings)
    (rests : run.timeline.next? = none)
    (known : run.state.tenants[index]? = some tenant) :
    tenant.isOver = true := by
  have attended := attends tenant known
  rw [Timeline.next?_eq_none_iff.mp rests] at attended
  obtain ⟨_, _, stands⟩ := regular.placed index tenant known
  cases stands with
  | waiting waits => cases attended.waiting waits
  | asking ask later asks =>
      obtain ⟨_, _, member⟩ := attended.asking ask asks
      cases member
  | working job later generators acts works ahead sited serves conduct =>
      obtain ⟨calm, turn, items⟩ := attended.working job works
      obtain ⟨_, _, _, begins, runs, _⟩ := conduct.ran
      rcases turn with member | ⟨_, cannot, unfinished⟩
      · cases member
      · obtain ⟨item, cell, found, holds⟩ := calm.exists_held begins runs cannot unfinished
        obtain ⟨_, _, _, member⟩ := items item cell found holds
        cases member
  | finished ended | stopped _ _ _ ended | crashed _ _ ended =>
      rw [Tenant.State.isOver, ended]

variable {count : Nat} {generator : Nat → Random.Generator} {recorder : Metrics.Recorder}
  {raised : Bool} {memory : Memory}

theorem regular_crowd :
    (crowd count generator recorder raised memory).Regular settings :=
  .of_initial (List.range count)

/-- A schedule of all tenants rests only when they are all done. -/
theorem isOver_of_rests
    (calm : service.Calm)
    (reaches : Relation.ReflTransGen (Advances settings service)
      (crowd count generator recorder raised memory) run)
    (rests : run.timeline.next? = none) :
    run.state.isOver = true := by
  have regular := regular_crowd.of_reachable calm reaches
  obtain ⟨_, events, begins, runs⟩ := orderly_crowd.of_reachable calm reaches
  rw [State.isOver, Array.all_eq_true]
  intro index inside
  have known := Array.getElem?_eq_getElem inside
  rw [(State.numbers_of_run runs).size] at inside
  have attended : (crowd count generator recorder raised memory).Attends settings index :=
    attends_of_initial (List.mem_range.mpr inside)
  exact (attended.of_reachable regular_crowd calm reaches).isOver_of_rests regular rests known

end TimedRun
end Run
end TenantLoad
