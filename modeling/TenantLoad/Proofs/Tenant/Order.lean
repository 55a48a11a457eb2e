import TenantLoad.Proofs.Tenant.Survey
import TenantLoad.Run.Machine

/-!
# The steps of a tenant come in order

On every schedule a tenant goes through the steps of its plan one after the
other.  No call begins before every call of the steps before it has ended and
each of their items has been answered, so the first step that does not complete
is the last one.  The outcome names its stage and the tables created until
then.
-/

namespace TenantLoad
namespace Tenant

/-- The table that an answered call has created. -/
def createdTable? : Origin × Api.Call × Api.Attempt → Option Table
  | (_, .createTable request, .returned reply) => some ⟨request.name, reply.slug⟩
  | _ => none

/-- The tables that were created, in order. -/
def createdTables (effects : List Effect) : List Table := (endings effects).filterMap createdTable?

/-- A step is completed: every call of it has ended, and every item of it has
an attempt that returned.  Signing up also takes a connection. -/
structure Completes (settings : Settings) (task : Task) (effects : List Effect) : Prop where
  answered : ∀ ask ∈ calls (partOf task effects),
    ∃ attempt, (ask.1, ask.2, attempt) ∈ endings (partOf task effects)
  succeeded : ∀ item ∈ task.items settings, ∃ ending ∈ endings (partOf task effects),
    ending.1.item = item ∧ ending.2.2.isReturned = true
  connected : task = .signUp → .connect (.returned ()) ∈ partOf task effects

/-- The effects keep to the plan. -/
structure Orderly (settings : Settings) (effects : List Effect) : Prop where
  /-- They are those of the planned steps, one step after the other. -/
  planned : effects = settings.plan.flatMap fun task => partOf task effects
  /-- Every call is one that its step makes for the item it names. -/
  fits : ∀ ask ∈ calls effects, ask.1.item ∈ ask.1.task.items settings ∧
    ask.1.task.Fits (createdTables effects) ask.1.item ask.2
  /-- When a call begins, all steps before its own are completed and over. -/
  waits : ∀ past origin call future, effects = past ++ .call origin call :: future →
    ∀ earlier later, settings.plan = earlier ++ origin.task :: later →
      ∀ task ∈ earlier, Completes settings task past ∧ partOf task future = []
  /-- At no time are more calls of a stage under way than may be. -/
  capped : ∀ past, past <+: effects → ∀ stage,
    (calls (stageOf stage past)).length ≤
      (endings (stageOf stage past)).length + settings.width stage
  /-- No attempt is made twice. -/
  once : ((calls effects).map Prod.fst).Nodup
  /-- A single call is made once at most. -/
  single : ∀ task, task.isSingle = true → (calls (partOf task effects)).length ≤ 1

/-- What an outcome says of the effects. -/
structure Tells (settings : Settings) (effects : List Effect) (outcome : Outcome) : Prop where
  tables : outcome.tables = createdTables effects
  /-- Without an error every step is completed. -/
  succeeded : outcome.error = none →
    outcome.failedStage = none ∧ ∀ task ∈ settings.plan, Completes settings task effects
  /-- With an error, the steps up to some step are completed, this one is not or
  was not entered, its stage is named, and those after it were not entered. -/
  failed : outcome.error ≠ none →
    ∃ earlier task later, settings.plan = earlier ++ task :: later ∧
      (∀ before ∈ earlier, Completes settings before effects) ∧
      (partOf task effects = [] ∨ ¬Completes settings task effects) ∧
      outcome.failedStage = some task.stage ∧
      ∀ after ∈ later, partOf after effects = []

variable {settings : Settings} {raised : Bool} {state : State} {world : World}
  {effects : List Effect} {done ahead : List Task} {past part : List Effect}
  {tables : List Table} {task : Task}

/-! ## Steps that complete -/

/-- A step that is completed shows as completed. -/
theorem Completed.completes
    (completed : Completed settings tables task (partOf task effects)) :
    Completes settings task effects := by
  obtain ⟨⟨results, account, succeeded⟩, connected⟩ := completed
  refine ⟨fun ask asked => account.answered asked, ?_, connected⟩
  intro item member
  obtain ⟨errand, dialogue⟩ := account.threads item member
  obtain ⟨earlier, reply, ends, _⟩ := succeeded item member
  have inThread : (⟨task, item, earlier.length + 1⟩, errand.call, .returned reply) ∈
      endings (threadOf task item (partOf task effects)) := by
    rw [dialogue.endings_eq, ends, List.mapIdx_concat]
    exact List.mem_append_right _ (List.mem_singleton.mpr rfl)
  rw [endings_threadOf, List.mem_filter] at inThread
  exact ⟨_, inThread.1, rfl, rfl⟩

/-- A step that is broken does not show as completed, unless it was not
entered. -/
theorem Broken.not_completes
    (broken : Broken settings tables task (partOf task effects)) :
    partOf task effects = [] ∨ ¬Completes settings task effects := by
  obtain ⟨results, account, unentered | ⟨item, member, fails⟩⟩ := broken
  · exact Or.inl unentered
  · right
    rintro ⟨_, succeeded, _⟩
    obtain ⟨ending, ended, sameItem, returned⟩ := succeeded item member
    obtain ⟨errand, dialogue⟩ := account.threads item member
    have inThread : ending ∈ endings (threadOf task item (partOf task effects)) := by
      rw [endings_threadOf, List.mem_filter]
      exact ⟨ended, decide_eq_true ⟨account.owned _ (mem_endings_iff.mp ended), sameItem⟩⟩
    rw [dialogue.endings_eq, List.mem_mapIdx] at inThread
    obtain ⟨place, inside, rfl⟩ := inThread
    rw [fails _ (List.getElem_mem inside)] at returned
    cases returned

/-! ## Tables -/

@[simp] theorem createdTables_append (earlier later : List Effect) :
    createdTables (earlier ++ later) = createdTables earlier ++ createdTables later := by
  rw [createdTables, endings_append, List.filterMap_append, createdTables, createdTables]

theorem createdTables_returning
    (origin : Origin)
    (call : Api.Call)
    (duration : Metrics.Millis)
    (extra : List (String × Json))
    (attempt : Api.Attempt) :
    createdTables (returning origin call duration extra attempt) =
      (createdTable? (origin, call, attempt)).toList := by
  rw [createdTables, endings_returning]
  cases created : createdTable? (origin, call, attempt) <;> simp [created]

/-- The next step creates no table at once. -/
theorem Enters.createdTables_eq
    {next : State}
    {new : List Effect}
    (enters : Enters settings raised state ahead next new) :
    createdTables new = [] := by
  cases enters <;> rfl

/-- A batch creates no table. -/
theorem createdTables_itemEffects
    {errand : Nat → Option Errand}
    (others : ∀ index purpose, errand index = some purpose →
      ∀ request, purpose.call ≠ .createTable request)
    (duration : Metrics.Millis)
    (batch : Calls)
    (act : CallAct) :
    createdTables (itemEffects task errand duration batch act) = [] := by
  cases act with
  | start index =>
      simp only [itemEffects]
      split <;> rfl
  | resume index =>
      simp only [itemEffects]
      split <;> rfl
  | finish index result =>
      simp only [itemEffects]
      split
      · rename_i purpose attempt generator given found
        rw [createdTables_returning]
        have other := others index purpose given
        cases asked : purpose.call with
        | createTable request => exact absurd asked (other request)
        | _ => rfl
      · rfl
  | _ => rfl

/-- An answer adds the table that it tells of. -/
theorem State.tables_learn_eq
    {ask : Ask}
    (asks : state.asking? = some ask)
    (origin : Origin)
    (reply : Api.Reply) :
    (state.learn reply).tables =
      state.tables ++ (createdTable? (origin, ask.call, .returned reply)).toList := by
  unfold State.asking? at asks
  unfold State.learn
  cases position : state.position <;> simp only [position] at asks ⊢ <;> cases asks
  · exact (List.append_nil _).symm
  · rfl
  · exact (List.append_nil _).symm

/-- The tables of a tenant are those that its effects show. -/
theorem World.tables_eq_of_run
    {index : Nat}
    {generator : Random.Generator}
    {happenings : List Happening}
    {final : World}
    (runs : World.run settings ⟨raised, Tenant.initial index generator⟩ happenings =
      some (final, effects)) :
    final.state.tables = createdTables effects := by
  refine (travels_induction
    (motive := fun world effects => world.state.tables = createdTables effects)
    ?_ (by rw [initial_eq]; rfl) (fun _ _ soFar => soFar) runs).2
  rintro raised state effects event next new ⟨done, ahead, past, part, _, _, _, stands⟩ soFar
    moves isAct
  rw [createdTables_append, ← soFar]
  cases moves with
  | refuse | connect | unconnected | crashUnconnected | spoiled =>
      exact (List.append_nil _).symm
  | answer ask duration reply asks =>
      obtain ⟨later, _, enters⟩ := enters_resume raised reply asks (stands.of_asking asks).2.1
      rw [createdTables_append, createdTables_returning, enters.createdTables_eq,
        List.append_nil, ← State.tables_learn_eq asks]
      exact enters.stands.1
  | fail ask duration error asks =>
      rw [createdTables_returning]
      cases ask.call <;> exact (List.append_nil _).symm
  | crash ask duration message asks =>
      rw [createdTables_returning]
      cases ask.call <;> exact (List.append_nil _).symm
  | act job duration act next works enabled =>
      obtain ⟨_, _, later, generators, acts, _, serves, _⟩ := stands.of_job works
      rw [State.tables_withBatch, createdTables_itemEffects, List.append_nil]
      intro index purpose given request creates
      have fits := serves.fits index purpose given
      rw [creates] at fits
      cases fits.of_createTable.1
  | turn => cases isAct
  | gathered job values works complete isOk =>
      obtain ⟨later, _, enters⟩ := enters_afterBatch raised works (stands.of_job works).2.1
      rw [enters.createdTables_eq, List.append_nil]
      exact enters.stands.1

/-! ## Order -/

theorem Completes.congr
    {others : List Effect}
    (completes : Completes settings task effects)
    (same : partOf task others = partOf task effects) :
    Completes settings task others := by
  obtain ⟨answered, succeeded, connected⟩ := completes
  exact ⟨by rwa [same], by rwa [same], by rwa [same]⟩

/-- The steps before one that shows are completed. -/
theorem Survey.completes
    {earlier later : List Task}
    (survey : Survey settings tables effects done ahead)
    (plan : settings.plan = earlier ++ task :: later)
    (shows : partOf task effects ≠ []) :
    ∀ before ∈ earlier, Completes settings before effects := by
  have distinct := settings.nodup_plan
  rw [plan] at distinct
  have alone : task ∉ earlier ∧ task ∉ later := by
    obtain ⟨_, distinctLater, apart⟩ := List.nodup_append.mp distinct
    exact ⟨fun member => apart task member task (List.mem_cons_self ..) rfl,
      (List.nodup_cons.mp distinctLater).1⟩
  have started : ∃ first second, settings.plan = first ++ task :: second ∧ first ⊆ done := by
    by_cases member : task ∈ done
    · obtain ⟨first, second, rfl⟩ := List.append_of_mem member
      exact ⟨first, second ++ ahead, by rw [survey.plan]; simp, by simp⟩
    · cases ahead with
      | nil => exact absurd (survey.untouched task member (by simp)) shows
      | cons head rest =>
          by_cases same : head = task
          · exact ⟨done, rest, by rw [survey.plan, same], List.Subset.refl _⟩
          · exact absurd (survey.untouched task member (by simpa using same)) shows
  obtain ⟨first, second, split, within⟩ := started
  have same : earlier = first :=
    ((List.append_cons_inj_of_notMem alone.1 alone.2).mp (plan.symm.trans split)).1
  intro before member
  exact (survey.completed before (within (same ▸ member))).completes

/-- When a call begins, the steps before its own are completed and over. -/
theorem Survey.waits
    {origin : Origin}
    {call : Api.Call}
    {before after : List Effect}
    {earlier later : List Task}
    (survey : Survey settings tables effects done ahead)
    (split : effects = before ++ .call origin call :: after)
    (plan : settings.plan = earlier ++ origin.task :: later) :
    ∀ task ∈ earlier, Completes settings task before ∧ partOf task after = [] := by
  have distinct := settings.nodup_plan
  rw [plan] at distinct
  obtain ⟨_, _, apart⟩ := List.nodup_append.mp distinct
  have planned := survey.planned
  rw [plan, List.flatMap_append] at planned
  generalize startEq : (earlier.flatMap fun task => partOf task effects) = start at planned
  generalize restEq : ((origin.task :: later).flatMap fun task => partOf task effects) = rest
    at planned
  have ofStart : ∀ effect ∈ start, effect.task ∈ earlier := by
    intro effect member
    rw [← startEq, List.mem_flatMap] at member
    obtain ⟨task, inEarlier, inPart⟩ := member
    rwa [of_decide_eq_true (List.mem_filter.mp inPart).2]
  have ofRest : ∀ task ∈ earlier, ∀ effect ∈ rest, effect.task ≠ task := by
    intro task inEarlier effect member
    rw [← restEq, List.mem_flatMap] at member
    obtain ⟨other, inLater, inPart⟩ := member
    rw [of_decide_eq_true (List.mem_filter.mp inPart).2]
    exact (apart task inEarlier other inLater).symm
  -- The call is one of the rest, so the start has gone by.
  have passed : ∃ between, before = start ++ between ∧ rest = between ++ .call origin call :: after := by
    rcases List.append_eq_append_iff.mp (split.symm.trans planned) with
      ⟨overlap, startSplit, restSplit⟩ | ⟨between, beforeSplit, restSplit⟩
    · cases overlap with
      | nil => exact ⟨[], by simp [startSplit], by simpa using restSplit.symm⟩
      | cons effect overlap =>
          obtain ⟨rfl, _⟩ := List.cons.inj restSplit
          have inStart : origin.task ∈ earlier :=
            ofStart (.call origin call) (by rw [startSplit]; simp)
          exact absurd rfl (apart origin.task inStart origin.task (List.mem_cons_self ..))
    · exact ⟨between, beforeSplit, restSplit⟩
  obtain ⟨between, beforeSplit, restSplit⟩ := passed
  have shows : partOf origin.task effects ≠ [] := by
    rw [split, partOf_append]
    simp [partOf, Effect.task]
  intro task member
  have goneBy : ∀ {part : List Effect}, (∀ effect ∈ part, effect ∈ rest) → partOf task part = [] :=
    fun within => partOf_eq_nil fun effect here => ofRest task member effect (within effect here)
  constructor
  · have betweenGone : partOf task between = [] := by
      refine goneBy fun effect here => ?_
      rw [restSplit]
      exact List.mem_append_left _ here
    have restGone : partOf task rest = [] := goneBy fun _ here => here
    refine (survey.completes plan shows task member).congr ?_
    rw [beforeSplit, partOf_append, betweenGone, planned, partOf_append, restGone]
  · refine goneBy fun effect here => ?_
    rw [restSplit]
    exact List.mem_append_right _ (List.mem_cons_of_mem _ here)

/-! ## Every run -/

/-- Every run keeps to the plan. -/
theorem Journey.orderly
    (journey : Journey settings world effects done ahead past part)
    (created : world.state.tables = createdTables effects) :
    Orderly settings effects := by
  have survey := journey.survey
  have inPart : ∀ ask ∈ calls effects, ask ∈ calls (partOf ask.1.task effects) := by
    intro ask asked
    rw [calls_partOf, List.mem_filter]
    exact ⟨asked, decide_eq_true rfl⟩
  refine
    { planned := survey.planned
      fits := ?_
      waits := fun _ _ _ _ split _ _ plan => survey.waits split plan
      capped := fun earlier before stage => by
        obtain ⟨_, paced, _⟩ := journey.paced stage
        exact paced.capped _ (before.filter _)
      once := ?_
      single := ?_ }
  · intro ask asked
    obtain ⟨results, pending, underWay, account⟩ := survey.account ask.1.task
    have shown := inPart ask asked
    refine ⟨account.items _ (mem_calls_iff.mp shown) _ rfl, ?_⟩
    rw [← created]
    exact account.fits ask shown
  · refine nodup_calls_of_threads ?_
    intro task item
    obtain ⟨results, pending, underWay, account⟩ := survey.account task
    rw [← threadOf_partOf]
    exact account.nodup_calls_threadOf item
  · intro task single
    obtain ⟨results, pending, underWay, account⟩ := survey.account task
    exact account.length_calls_le_one single

/-- The outcome of a tenant tells its tables and the failure that ended its
work. -/
theorem State.of_arrival
    {outcome : Outcome}
    (arrives : Run.State.arrival? state = some outcome) :
    ∃ failure, state.position = .ended failure ∧ outcome.tables = state.tables ∧
      outcome.error = failure.map Failure.message ∧
      outcome.failedStage = failure.bind Failure.stage? := by
  unfold Run.State.arrival? at arrives
  split at arrives
  · rename_i failure ended
    refine ⟨failure, ended, ?_⟩
    cases failure <;> simp only [State.outcome?, ended, Option.some.injEq] at arrives <;>
      subst arrives <;> exact ⟨rfl, rfl, rfl⟩
  · cases arrives

/-- The outcome of a tenant tells how far it got. -/
theorem Journey.tells
    {outcome : Outcome}
    (journey : Journey settings world effects done ahead past part)
    (created : world.state.tables = createdTables effects)
    (arrives : Run.State.arrival? world.state = some outcome) :
    Tells settings effects outcome := by
  have survey := journey.survey
  obtain ⟨plan, rfl, accomplished, stands⟩ := journey
  obtain ⟨failure, ended, tables, error, stage⟩ := State.of_arrival arrives
  refine ⟨tables.trans created, ?_, ?_⟩
  · intro succeeded
    obtain rfl : failure = none := Option.map_eq_none_iff.mp (error.symm.trans succeeded)
    obtain ⟨rfl, rfl⟩ := stands.of_ended ended
    refine ⟨stage, fun task member => (survey.completed task ?_).completes⟩
    rwa [plan, List.append_nil] at member
  · intro failed
    cases failure with
    | none => exact absurd error failed
    | some failure =>
        obtain ⟨task, later, rfl, broke, broken⟩ := stands.of_failed ended
        have distinct := settings.nodup_plan
        rw [plan] at distinct
        obtain ⟨_, distinctAhead, apart⟩ := List.nodup_append.mp distinct
        refine ⟨done, task, later, plan, fun before member =>
          (survey.completed before member).completes, ?_, stage.trans broke, ?_⟩
        · obtain ⟨results, account, _⟩ := id broken
          rw [← accomplished.partOf_head plan account] at broken
          exact broken.not_completes
        · intro after member
          refine survey.untouched after ?_ ?_
          · intro earlier
            exact apart after earlier after (List.mem_cons_of_mem _ member) rfl
          · rw [List.head?_cons, ne_eq, Option.some.injEq]
            rintro rfl
            exact (List.nodup_cons.mp distinctAhead).1 member

/-- A tenant keeps to its plan on every schedule, and its outcome tells how far
it got. -/
theorem steps_in_order
    {index : Nat}
    {generator : Random.Generator}
    {happenings : List Happening}
    {final : World}
    (runs : World.run settings ⟨raised, Tenant.initial index generator⟩ happenings =
      some (final, effects)) :
    Orderly settings effects ∧
      ∀ outcome, Run.State.arrival? final.state = some outcome →
        Tells settings effects outcome := by
  obtain ⟨done, ahead, past, part, journey⟩ := World.travels_of_run runs
  have created := World.tables_eq_of_run runs
  exact ⟨journey.orderly created, fun _ arrives => journey.tells created arrives⟩

/-- The first column of the first table is refused: nothing else is called. -/
theorem steps_in_order_up_to_a_column :
    let settings : Settings :=
      { workload := { tablesPerTenant := 2 }, policy := ⟨3, .none⟩, classifier := .standard }
    let refused : Api.Error := .transport "reset"
    let happenings : List Happening :=
      [.event (.begin (.returned ())), .event (.answered ⟨1⟩ (.returned ⟨200, .nothing⟩)),
        .event (.answered ⟨2⟩ (.returned ⟨200, .nothing⟩)),
        .event (.answered ⟨3⟩ (.failed refused))]
    ∃ final effects,
      World.run settings ⟨false, Tenant.initial 0 (.ofSeed 7)⟩ happenings =
        some (final, effects) ∧
      Orderly settings effects ∧ (calls effects).length = 3 ∧
      ∃ outcome, Run.State.arrival? final.state = some outcome ∧ Tells settings effects outcome ∧
        outcome.failedStage = some .addColumn ∧ outcome.tables.length = 1 := by
  intro settings refused happenings
  have runsOn :
      (World.run settings ⟨false, Tenant.initial 0 (.ofSeed 7)⟩ happenings).any
        (fun ended => (calls ended.2).length = 3 ∧
          (Run.State.arrival? ended.1.state).any fun outcome =>
            outcome.failedStage = some .addColumn ∧ outcome.tables.length = 1) = true := by
    rw [initial_eq]
    simp [settings, refused, happenings, World.run, World.step, State.step, State.enter,
      State.signUp, State.answered, State.afterCall, State.nextTable, State.createTable_eq,
      State.addColumns, State.stopFor, State.moveTo, State.withTable, Payload.columns,
      Run.State.arrival?, State.outcome?, Outcome.fail, Failure.stage?, calls, Effect.call?,
      List.filterMap_cons, returning, measuredEntry]
  obtain ⟨⟨final, effects⟩, runs, held⟩ := (Option.any_eq_true _ _).mp runsOn
  obtain ⟨asked, arrival⟩ := of_decide_eq_true held
  obtain ⟨outcome, arrives, told⟩ := (Option.any_eq_true _ _).mp arrival
  obtain ⟨stage, tables⟩ := of_decide_eq_true told
  obtain ⟨orderly, tells⟩ := steps_in_order runs
  exact ⟨final, effects, runs, orderly, asked, outcome, arrives, tells outcome arrives, stage,
    tables⟩

end Tenant
end TenantLoad
