import TenantLoad.Proofs.Tenant.Runs

/-!
# The journey of a tenant through its plan

The effects of a tenant are those of the steps that are done and then those of
the step it stands at.  Every step that is done is completed, a step that does
not complete is the last one, and the steps after it never show.  Every event
keeps this, so it holds after every run.
-/

namespace TenantLoad
namespace Tenant

/-- Steps that are completed, with their effects one after the other. -/
inductive Accomplished (settings : Settings) (tables : List Table) :
    List Task → List Effect → Prop
  | nil : Accomplished settings tables [] []
  | snoc
      {done : List Task}
      {task : Task}
      {past part : List Effect}
      (soFar : Accomplished settings tables done past)
      (completed : Completed settings tables task part) :
      Accomplished settings tables (done ++ [task]) (past ++ part)

/-- Where a tenant stands: at the first of the steps that are left, with the
effects of this step so far. -/
inductive Stands (settings : Settings) (raised : Bool) (state : State) :
    List Task → List Effect → Prop
  | waiting
      (waits : state.position = .waiting)
      (sited : state.Sited settings) :
      Stands settings raised state settings.plan []
  | asking
      (ask : Ask)
      (later : List Task)
      (asks : state.asking? = some ask)
      (ahead : state.ahead settings = ask.task :: later)
      (sited : state.Sited settings) :
      Stands settings raised state (ask.task :: later)
        (opening ask.task ++ [.call ⟨ask.task, none, 1⟩ ask.call])
  | working
      {part : List Effect}
      (job : Job)
      (later : List Task)
      (generators : List Random.Generator)
      (acts : List CallAct)
      (works : state.job? settings = some job)
      (ahead : state.ahead settings = job.task :: later)
      (sited : state.Sited settings)
      (serves : Serves settings state.tables job.settings generators job.task job.errand)
      (conduct :
        Conduct job.settings generators job.task job.errand acts part raised job.batch) :
      Stands settings raised state (job.task :: later) part
  | finished (ended : state.position = .ended none) : Stands settings raised state [] []
  | stopped
      {part : List Effect}
      (task : Task)
      (later : List Task)
      (failure : Failure)
      (ended : state.position = .ended (some failure))
      (stage : failure.stage? = some task.stage)
      (broken : Broken settings state.tables task part) :
      Stands settings raised state (task :: later) part
  | crashed
      {part : List Effect}
      {results : Option Nat → List Api.Attempt}
      (task : Task)
      (later : List Task)
      (ended : state.position = .crashed)
      (account : Account settings state.tables task part results idle 0) :
      Stands settings raised state (task :: later) part

/-- A way through the plan: some steps are done, others are left, and the effects
are those of both. -/
structure Journey (settings : Settings) (world : World) (effects : List Effect)
    (done ahead : List Task) (past part : List Effect) : Prop where
  plan : settings.plan = done ++ ahead
  split : effects = past ++ part
  accomplished : Accomplished settings world.state.tables done past
  stands : Stands settings world.raised world.state ahead part

/-- The effects of a tenant are those of its plan as far as it has got. -/
def Travels (settings : Settings) (world : World) (effects : List Effect) : Prop :=
  ∃ done ahead past part, Journey settings world effects done ahead past part

variable {settings : Settings} {raised : Bool} {state next : State} {effects new : List Effect}
  {done ahead : List Task} {past part : List Effect} {tables : List Table}

theorem Accomplished.append
    (accomplished : Accomplished settings tables done past)
    (more : List Table) :
    Accomplished settings (tables ++ more) done past := by
  induction accomplished with
  | nil => exact .nil
  | snoc _ completed inductionHypothesis =>
      exact inductionHypothesis.snoc (completed.append more)

/-- What is learned of a new table adds to the tables. -/
theorem State.tables_learn
    (state : State)
    (reply : Api.Reply) :
    ∃ more, (state.learn reply).tables = state.tables ++ more := by
  unfold State.learn
  cases state.position <;> first | exact ⟨[], (List.append_nil _).symm⟩ | exact ⟨_, rfl⟩

/-- Work that goes on with the steps that are left stands at the first of
them. -/
theorem Enters.stands
    (enters : Enters settings raised state ahead next new) :
    next.tables = state.tables ∧ Stands settings raised next ahead new := by
  cases enters with
  | finish => exact ⟨rfl, .finished rfl⟩
  | refuse task later isRaised =>
      exact ⟨rfl, .stopped task later _ rfl rfl (.unentered ..)⟩
  | call ask later asks ahead sited tables unopened =>
      refine ⟨tables, ?_⟩
      have stands : Stands settings raised next (ask.task :: later)
          (opening ask.task ++ [.call ⟨ask.task, none, 1⟩ ask.call]) :=
        .asking ask later asks ahead sited
      rwa [unopened, List.nil_append] at stands
  | batch job later generators works ahead sited tables begins serves =>
      refine ⟨tables, .working job later generators [] works ahead sited ?_
        (.begin raised job.task begins serves.errands)⟩
      rw [tables]
      exact serves
  | crash task later crashed tables unfit =>
      exact ⟨tables, .crashed task later crashed (.nil ..)⟩

/-- A step that is completed is done, and the work goes on after it. -/
theorem Journey.proceed
    {task : Task}
    {later : List Task}
    {known : State}
    {more : List Table}
    (plan : settings.plan = done ++ task :: later)
    (accomplished : Accomplished settings tables done past)
    (completed : Completed settings tables task part)
    (learned : known.tables = tables ++ more)
    (enters : Enters settings raised known later next new)
    (shown : effects = past ++ part ++ new) :
    Journey settings ⟨raised, next⟩ effects (done ++ [task]) later (past ++ part) new where
  plan := by rw [plan, List.append_assoc, List.singleton_append]
  split := shown
  accomplished := by
    rw [enters.stands.1, learned]
    exact (accomplished.snoc completed).append more
  stands := enters.stands.2

theorem Travels.proceed
    {task : Task}
    {later : List Task}
    {known : State}
    {more : List Table}
    (plan : settings.plan = done ++ task :: later)
    (accomplished : Accomplished settings tables done past)
    (completed : Completed settings tables task part)
    (learned : known.tables = tables ++ more)
    (enters : Enters settings raised known later next new)
    (shown : effects = past ++ part ++ new) :
    Travels settings ⟨raised, next⟩ effects :=
  ⟨_, _, _, _, .proceed plan accomplished completed learned enters shown⟩

/-! ## One event -/

/-- Who waits has done nothing. -/
theorem Stands.of_waiting
    (stands : Stands settings raised state ahead part)
    (waits : state.position = .waiting) :
    ahead = settings.plan ∧ part = [] ∧ state.Sited settings := by
  cases stands with
  | waiting _ sited => exact ⟨rfl, rfl, sited⟩
  | asking _ _ asks => simp [State.asking?, waits] at asks
  | working _ _ _ _ works => simp [State.job?, waits] at works
  | finished ended | stopped _ _ _ ended | crashed _ _ ended => simp [waits] at ended

/-- Who has asked stands at the step of the call. -/
theorem Stands.of_asking
    {ask : Ask}
    (stands : Stands settings raised state ahead part)
    (asks : state.asking? = some ask) :
    ahead = state.ahead settings ∧ state.Sited settings ∧
      part = opening ask.task ++ [.call ⟨ask.task, none, 1⟩ ask.call] := by
  cases stands with
  | asking other later same ahead sited =>
      rw [asks, Option.some.injEq] at same
      subst same
      exact ⟨ahead.symm, sited, rfl⟩
  | waiting waits => simp [State.asking?, waits] at asks
  | working _ _ _ _ works =>
      unfold State.asking? at asks
      unfold State.job? at works
      cases position : state.position <;> simp [position] at asks works
  | finished ended | stopped _ _ _ ended | crashed _ _ ended => simp [State.asking?, ended] at asks

/-- Who runs a batch stands at the step of the batch. -/
theorem Stands.of_job
    {job : Job}
    (stands : Stands settings raised state ahead part)
    (works : state.job? settings = some job) :
    ahead = state.ahead settings ∧ state.Sited settings ∧
      ∃ later generators acts, state.ahead settings = job.task :: later ∧
        Serves settings state.tables job.settings generators job.task job.errand ∧
          Conduct job.settings generators job.task job.errand acts part raised job.batch := by
  cases stands with
  | working other later generators acts same ahead sited serves conduct =>
      rw [works, Option.some.injEq] at same
      subst same
      exact ⟨ahead.symm, sited, later, generators, acts, ahead, serves, conduct⟩
  | waiting waits => simp [State.job?, waits] at works
  | asking _ _ asks =>
      unfold State.asking? at asks
      unfold State.job? at works
      cases position : state.position <;> simp [position] at asks works
  | finished ended | stopped _ _ _ ended | crashed _ _ ended => simp [State.job?, ended] at works

/-- Who has ended without a failure has nothing left to do. -/
theorem Stands.of_ended
    (stands : Stands settings raised state ahead part)
    (ended : state.position = .ended none) :
    ahead = [] ∧ part = [] := by
  cases stands with
  | finished => exact ⟨rfl, rfl⟩
  | waiting waits => simp [ended] at waits
  | asking _ _ asks => simp [State.asking?, ended] at asks
  | working _ _ _ _ works => simp [State.job?, ended] at works
  | stopped _ _ _ other | crashed _ _ other => simp [ended] at other

/-- Who has ended with a failure stands at the step that broke. -/
theorem Stands.of_failed
    {failure : Failure}
    (stands : Stands settings raised state ahead part)
    (ended : state.position = .ended (some failure)) :
    ∃ task later, ahead = task :: later ∧ failure.stage? = some task.stage ∧
      Broken settings state.tables task part := by
  cases stands with
  | stopped task later other same stage broken =>
      rw [ended, Position.ended.injEq, Option.some.injEq] at same
      subst same
      exact ⟨task, later, rfl, stage, broken⟩
  | waiting waits => simp [ended] at waits
  | asking _ _ asks => simp [State.asking?, ended] at asks
  | working _ _ _ _ works => simp [State.job?, ended] at works
  | finished other | crashed _ _ other => simp [ended] at other

/-- The signal leaves a tenant where it stands. -/
theorem Stands.raise
    (stands : Stands settings raised state ahead part) :
    Stands settings true state ahead part := by
  cases stands with
  | waiting waits sited => exact .waiting waits sited
  | asking ask later asks ahead sited => exact .asking ask later asks ahead sited
  | working job later generators acts works ahead sited serves conduct =>
      exact .working job later generators acts works ahead sited serves conduct.raise
  | finished ended => exact .finished ended
  | stopped task later failure ended stage broken =>
      exact .stopped task later failure ended stage broken
  | crashed task later ended account => exact .crashed task later ended account

/-- One event takes a tenant on through its plan. -/
theorem Travels.step
    {event : Event}
    (travels : Travels settings ⟨raised, state⟩ effects)
    (moves : Moves settings raised state event next new)
    (isAct : event.isTurn = false) :
    Travels settings ⟨raised, next⟩ (effects ++ new) := by
  obtain ⟨done, ahead, past, part, plan, rfl, accomplished, stands⟩ := travels
  cases moves with
  | refuse connection waits isRaised =>
      obtain ⟨rfl, rfl, sited⟩ := stands.of_waiting waits
      refine ⟨done, _, past, [], plan.trans (by rw [settings.plan_eq]), by simp, accomplished,
        .stopped .signUp (settings.tasksFrom 0) _ rfl rfl (.unentered ..)⟩
  | connect waits isUnraised =>
      obtain ⟨rfl, rfl, sited⟩ := stands.of_waiting waits
      have unmade : state.tables = [] := by simpa [State.Sited, waits] using sited
      refine ⟨done, _, past, _, plan.trans (by rw [settings.plan_eq]), ?_, accomplished,
        .asking ⟨.signUp, _, _⟩ (settings.tasksFrom 0) rfl settings.plan_eq unmade⟩
      rw [List.append_nil]
      rfl
  | unconnected source waits isUnraised =>
      obtain ⟨rfl, rfl, sited⟩ := stands.of_waiting waits
      refine ⟨done, _, past, _, plan.trans (by rw [settings.plan_eq]), by rw [List.append_nil],
        accomplished, .stopped .signUp (settings.tasksFrom 0) _ rfl rfl ⟨_, .ofConnect .., ?_⟩⟩
      exact Or.inr ⟨none, List.mem_singleton.mpr rfl, by simp [Fails]⟩
  | crashUnconnected message waits isUnraised =>
      obtain ⟨rfl, rfl, sited⟩ := stands.of_waiting waits
      exact ⟨done, _, past, _, plan.trans (by rw [settings.plan_eq]), by rw [List.append_nil],
        accomplished, .crashed .signUp (settings.tasksFrom 0) rfl (.ofConnect ..)⟩
  | answer ask duration reply asks =>
      obtain ⟨rfl, sited, rfl⟩ := stands.of_asking asks
      obtain ⟨later, isAhead, enters⟩ := enters_resume raised reply asks sited
      obtain ⟨more, learned⟩ := state.tables_learn reply
      obtain ⟨single, fits, _⟩ := state.asks asks sited
      rw [isAhead] at plan
      exact .proceed plan accomplished (.ofExchange settings single fits duration reply) learned
        enters (by simp [exchange])
  | fail ask duration error asks =>
      obtain ⟨rfl, sited, rfl⟩ := stands.of_asking asks
      obtain ⟨later, isAhead, _⟩ := enters_resume raised ⟨0, .nothing⟩ asks sited
      obtain ⟨single, fits, stage⟩ := state.asks asks sited
      rw [isAhead] at plan
      exact ⟨done, _, past, _, plan, by simp [exchange], accomplished,
        .stopped ask.task later _ rfl (stage error)
          (.ofExchange settings single fits duration error)⟩
  | crash ask duration message asks =>
      obtain ⟨rfl, sited, rfl⟩ := stands.of_asking asks
      obtain ⟨later, isAhead, _⟩ := enters_resume raised ⟨0, .nothing⟩ asks sited
      obtain ⟨single, fits, _⟩ := state.asks asks sited
      rw [isAhead] at plan
      exact ⟨done, _, past, _, plan, by simp [exchange], accomplished,
        .crashed ask.task later rfl (.ofExchange single fits duration (.crashed message))⟩
  | act job duration act next works enabled =>
      obtain ⟨rfl, sited, later, generators, acts, isAhead, serves, conduct⟩ :=
        stands.of_job works
      have isAheadStill : (state.withBatch next).ahead settings = job.task :: later := by
        rw [State.ahead_withBatch, isAhead]
      rw [isAhead] at plan
      refine ⟨done, _, past, _, plan, List.append_assoc .., by simpa using accomplished,
        .working { job with batch := next } later generators _ (State.job?_withBatch works next)
          isAheadStill (State.sited_withBatch sited next) (by simpa using serves)
          (conduct.after_act enabled duration)⟩
  | turn => cases isAct
  | gathered job values works complete isOk =>
      obtain ⟨rfl, sited, later, generators, acts, isAhead, serves, conduct⟩ :=
        stands.of_job works
      obtain ⟨_, _, gathered⟩ := conduct.gatherAll
      obtain ⟨after, isAfter, enters⟩ := enters_afterBatch raised works sited
      rw [isAfter] at plan
      exact .proceed plan accomplished (gathered.completed serves complete isOk)
        (List.append_nil _).symm enters rfl
  | spoiled job failure works complete isError =>
      obtain ⟨rfl, sited, later, generators, acts, isAhead, serves, conduct⟩ :=
        stands.of_job works
      obtain ⟨_, _, gathered⟩ := conduct.gatherAll
      rw [isAhead] at plan
      exact ⟨done, _, past, _, plan, by simp, accomplished,
        .stopped job.task later _ rfl (State.stage?_of_job works failure)
          (gathered.broken serves complete isError)⟩

/-- A tenant that has done nothing is at the beginning of its plan. -/
theorem Travels.initial
    (settings : Settings)
    (raised : Bool)
    (index : Nat)
    (generator : Random.Generator) :
    Travels settings ⟨raised, Tenant.initial index generator⟩ [] := by
  rw [initial_eq]
  exact ⟨[], settings.plan, [], [], rfl, rfl, .nil, .waiting rfl rfl⟩

/-- The signal takes a tenant neither on nor back. -/
theorem Travels.raise
    {world : World}
    (travels : Travels settings world effects) :
    Travels settings { world with raised := true } effects := by
  obtain ⟨done, ahead, past, part, plan, split, accomplished, stands⟩ := travels
  exact ⟨done, ahead, past, part, plan, split, accomplished, stands.raise⟩

/-- What holds at first and is kept by every event on the way through the plan
holds after every run. -/
theorem World.travels_induction
    {index : Nat}
    {generator : Random.Generator}
    {happenings : List Happening}
    {final : World}
    {motive : World → List Effect → Prop}
    (event : ∀ raised state effects event next new, Travels settings ⟨raised, state⟩ effects →
      motive ⟨raised, state⟩ effects → Moves settings raised state event next new →
        event.isTurn = false → motive ⟨raised, next⟩ (effects ++ new))
    (start : motive ⟨raised, Tenant.initial index generator⟩ [])
    (raise : ∀ current effects, motive current effects →
      motive { current with raised := true } effects)
    (runs : World.run settings ⟨raised, Tenant.initial index generator⟩ happenings =
      some (final, effects)) :
    Travels settings final effects ∧ motive final effects := by
  refine run_induction
    (motive := fun world effects => Travels settings world effects ∧ motive world effects)
    ?_ ⟨.initial settings raised index generator, start⟩ ?_ runs
  · rintro raised state effects happened next new ⟨travels, soFar⟩ moves isAct
    exact ⟨travels.step moves isAct,
      event raised state effects happened next new travels soFar moves isAct⟩
  · rintro current effects ⟨travels, soFar⟩
    exact ⟨travels.raise, raise current effects soFar⟩

/-- Every run of a tenant goes through its plan. -/
theorem World.travels_of_run
    {index : Nat}
    {generator : Random.Generator}
    {happenings : List Happening}
    {final : World}
    (runs : World.run settings ⟨raised, Tenant.initial index generator⟩ happenings =
      some (final, effects)) :
    Travels settings final effects :=
  (travels_induction (motive := fun _ _ => True) (fun _ _ _ _ _ _ _ _ _ _ => trivial) trivial
    (fun _ _ _ => trivial) runs).1

end Tenant
end TenantLoad
