import TenantLoad.Proofs.Tenant.Delivery
import TenantLoad.Proofs.Tenant.Shutdown

/-!
# Tenants that shutdown cuts short

A cancelled tenant has completed its plan up to the step that it was cut short
at.  Of this step nothing shows, or some of its items was never called for.  So
some planned call has never begun, unless all that was left were the rows or
the searches of the last table and there are none: the signal is looked at
before such a step as before any other one.
-/

namespace TenantLoad
namespace Tenant

/-- Every planned call has begun: one at least for each item of each planned
step. -/
def EveryCallBegins (settings : Settings) (effects : List Effect) : Prop :=
  ∀ task ∈ settings.plan, ∀ item ∈ task.items settings,
    ∃ ask ∈ calls effects, ask.1.task = task ∧ ask.1.item = item

/-- A tenant was cut short at a step: those before it are completed, those
after it were not entered, and of the step itself nothing shows or some item
was never called for. -/
structure CutShort (settings : Settings) (tables : List Table) (effects : List Effect)
    (done : List Task) (task : Task) (later : List Task) : Prop where
  survey : Survey settings tables effects done (task :: later)
  silent : partOf task effects = [] ∨
    ∃ item ∈ task.items settings, calls (threadOf task item effects) = []

variable {settings : Settings} {raised : Bool} {state next : State} {world : World}
  {event : Event} {effects new past part : List Effect} {done ahead later : List Task}
  {tables : List Table} {task : Task} {failure : Failure}

/-! ## The end of the plan -/

/-- The rows and the searches of a table come last of its steps. -/
theorem Settings.exists_plan_eq
    {table : Nat}
    (inside : table < settings.tableCount) :
    ∃ before, settings.plan =
      before ++ .insertRows table :: .search table :: settings.tasksFrom (table + 1) := by
  have count : settings.tableCount = table + (settings.tableCount - table) := by omega
  have tables : List.range' 0 settings.tableCount =
      List.range' 0 table ++ List.range' table (settings.tableCount - table) := by
    have whole : List.range' 0 table ++ List.range' (0 + table) (settings.tableCount - table) =
        List.range' 0 (table + (settings.tableCount - table)) := List.range'_append_1
    rw [Nat.zero_add] at whole
    rw [whole, ← count]
  have split : settings.tasksFrom 0 =
      (List.range' 0 table).flatMap tableTasks ++ settings.tasksFrom table := by
    rw [Settings.tasksFrom, Settings.tasksFrom, Nat.sub_zero, tables, List.flatMap_append]
  refine ⟨.signUp :: ((List.range' 0 table).flatMap tableTasks ++
    .createTable table :: Payload.columns.map (.addColumn table)), ?_⟩
  rw [settings.plan_eq, split, Settings.tasksFrom_of_lt inside]
  simp [tableTasks, columnTasks]

theorem Settings.lt_tableCount_of_mem_plan
    {table : Nat}
    (planned : task ∈ settings.plan)
    (about : task.table? = some table) :
    table < settings.tableCount := by
  rcases Settings.mem_plan_iff.mp planned with rfl | ⟨other, inside, member⟩
  · cases about
  · rw [table?_of_mem_tableTasks member, Option.some.injEq] at about
    exact about ▸ inside

/-- What follows a step in the plan does not depend on how it is found. -/
theorem Settings.eq_of_plan_eq
    {before after : List Task}
    (plan : settings.plan = done ++ task :: later)
    (again : settings.plan = before ++ task :: after) :
    later = after := by
  have distinct := settings.nodup_plan
  rw [plan] at distinct
  obtain ⟨_, distinctAhead, apart⟩ := List.nodup_append.mp distinct
  have before_ne : task ∉ done := fun member =>
    apart task member task (List.mem_cons_self ..) rfl
  have after_ne := (List.nodup_cons.mp distinctAhead).1
  exact ((List.append_cons_inj_of_notMem before_ne after_ne).mp (plan.symm.trans again)).2.2

/-- After its rows a table has its searches before the next one. -/
theorem Settings.later_of_insertRows
    {table : Nat}
    (plan : settings.plan = done ++ .insertRows table :: later) :
    later = .search table :: settings.tasksFrom (table + 1) := by
  have planned : .insertRows table ∈ settings.plan := by simp [plan]
  have inside : table < settings.tableCount := Settings.lt_tableCount_of_mem_plan planned rfl
  obtain ⟨before, again⟩ := Settings.exists_plan_eq inside
  exact Settings.eq_of_plan_eq plan again

theorem Settings.later_of_search
    {table : Nat}
    (plan : settings.plan = done ++ .search table :: later) :
    later = settings.tasksFrom (table + 1) := by
  have planned : .search table ∈ settings.plan := by simp [plan]
  have inside : table < settings.tableCount := Settings.lt_tableCount_of_mem_plan planned rfl
  obtain ⟨before, again⟩ := Settings.exists_plan_eq inside
  rw [List.append_cons] at again
  exact Settings.eq_of_plan_eq plan again

/-- Either no table is left, or the creation of the next one is. -/
theorem Settings.tasksFrom_eq_nil_or_mem
    (settings : Settings)
    (table : Nat) :
    settings.tasksFrom table = [] ∨ .createTable table ∈ settings.tasksFrom table := by
  rcases Nat.lt_or_ge table settings.tableCount with left | enough
  · right
    rw [Settings.tasksFrom_of_lt left]
    exact List.mem_append_left _ (List.mem_cons_self ..)
  · exact Or.inl (Settings.tasksFrom_of_le enough)

/-- Steps of further tables that make no call are none. -/
theorem Settings.forall_items_tasksFrom_iff
    (settings : Settings)
    (table : Nat) :
    (∀ left ∈ settings.tasksFrom table, left.items settings = []) ↔
      ∀ left ∈ settings.tasksFrom table, left.stage ≠ .createTable := by
  rcases settings.tasksFrom_eq_nil_or_mem table with none | member
  · simp [none]
  · constructor
    · intro nothing
      cases nothing _ member
    · intro uncreating
      exact absurd rfl (uncreating _ member)

theorem Task.items_insertRows_eq_nil_iff
    {table : Nat} :
    (insertRows table).items settings = [] ↔ settings.rowCount = 0 := by
  simp [items]

theorem Task.items_search_eq_nil_iff
    {table : Nat} :
    (search table).items settings = [] ↔ settings.searchCount = 0 := by
  simp [items]

/-! ## Calls that have begun -/

/-- A call for an item has begun if there is one in its thread. -/
theorem exists_call_iff
    {item : Option Nat} :
    (∃ ask ∈ calls effects, ask.1.task = task ∧ ask.1.item = item) ↔
      calls (threadOf task item effects) ≠ [] := by
  rw [calls_threadOf, ne_eq, List.filter_eq_nil_iff]
  simp

/-- Where nothing shows of a step no call of it has begun. -/
theorem calls_threadOf_eq_nil
    (silent : partOf task effects = [])
    (item : Option Nat) :
    calls (threadOf task item effects) = [] := by
  rw [← threadOf_partOf, silent]
  rfl

/-- Every item of a completed step has been called for. -/
theorem Completed.calls_threadOf_ne_nil
    {item : Option Nat}
    (completed : Completed settings tables task part)
    (member : item ∈ task.items settings) :
    calls (threadOf task item part) ≠ [] := by
  obtain ⟨results, account, succeeded⟩ := completed.account
  obtain ⟨errand, dialogue⟩ := account.threads item member
  obtain ⟨earlier, reply, ends, _⟩ := succeeded item member
  rw [dialogue.calls_eq, ends]
  simp

/-! ## How a tenant is cut short -/

/-- A tenant that stands at a step of which nothing shows is cut short there. -/
theorem Journey.cutShort
    (journey : Journey settings world effects done (task :: later) past []) :
    CutShort settings world.state.tables effects done task later where
  survey := journey.survey
  silent := by
    rw [journey.split]
    exact Or.inl (journey.accomplished.partOf_head journey.plan
      (.nil settings world.state.tables task))

/-- Work that stops where it goes on does so before the next step. -/
theorem Enters.of_failed
    (enters : Enters settings raised state ahead next new)
    (ended : next.position = .ended (some failure)) :
    ∃ task later, ahead = task :: later ∧ new = [] ∧ failure = .cancelled task.stage := by
  cases enters with
  | finish => cases ended
  | refuse task later =>
      cases ended
      exact ⟨task, later, rfl, rfl, rfl⟩
  | call ask _ asks =>
      have continues := State.isOver_of_asking asks
      simp [State.isOver, ended] at continues
  | batch job _ _ works =>
      have continues := State.isOver_of_job works
      simp [State.isOver, ended] at continues
  | crash _ _ crashed => simp [crashed] at ended

/-- A batch that shutdown cancels has an item that was never called for. -/
theorem Conduct.exists_uncalled
    {batchSettings : Batch.Settings}
    {generators : List Random.Generator}
    {errand : Nat → Option Errand}
    {acts : List CallAct}
    {batch : Calls}
    (conduct : Conduct batchSettings generators task errand acts part raised batch)
    (serves : Serves settings tables batchSettings generators task errand)
    (complete : batch.isComplete = true)
    (cancelled : (batch.report batchSettings).cancelled = true) :
    ∃ item ∈ task.items settings, calls (threadOf task item part) = [] := by
  have account := conduct.account_of_isComplete serves complete
  obtain ⟨_, _, _, begins, runs, rfl⟩ := conduct.ran
  have sound := Batch.World.sound_of_isComplete begins runs complete
  obtain ⟨index, shown⟩ := List.mem_iff_getElem?.mp (sound.cancelled cancelled)
  obtain ⟨generator, known, sums⟩ := Batch.World.sums_of_isComplete begins runs complete shown
  have member : some index ∈ task.items settings := by
    rw [serves.items]
    exact List.mem_map_of_mem (List.mem_range.mpr (List.getElem?_eq_some_iff.mp known).1)
  obtain ⟨purpose, dialogue⟩ := account.threads (some index) member
  refine ⟨some index, member, ?_⟩
  rw [dialogue.calls_eq, itemResults, sums.eq_nil_of_notStarted rfl]
  rfl

/-- The event that cancels a tenant leaves it cut short. -/
theorem Travels.cutShort_of_moves
    (travels : Travels settings ⟨raised, state⟩ effects)
    (moves : Moves settings raised state event next new)
    (ended : next.position = .ended (some failure))
    (isCancelled : failure.isCancelled = true) :
    ∃ done task later, failure.stage? = some task.stage ∧
      CutShort settings next.tables (effects ++ new) done task later := by
  obtain ⟨done, ahead, past, part, journey⟩ := travels
  obtain ⟨plan, rfl, accomplished, stands⟩ := id journey
  cases moves with
  | connect | crashUnconnected | crash => cases ended
  | unconnected =>
      cases ended
      cases isCancelled
  | fail ask duration error asks =>
      cases ended
      rw [State.isCancelled_of_asking asks] at isCancelled
      cases isCancelled
  | act job duration act batch works =>
      have continues := State.isOver_of_job (State.job?_withBatch works batch)
      simp [State.isOver, ended] at continues
  | turn job duration turn batch works =>
      have continues := State.isOver_of_job (State.job?_withBatch works batch)
      simp [State.isOver, ended] at continues
  | refuse connection waits isRaised =>
      cases ended
      obtain ⟨rfl, rfl, _⟩ := stands.of_waiting waits
      rw [settings.plan_eq] at journey
      rw [List.append_nil]
      exact ⟨done, .signUp, settings.tasksFrom 0, rfl, journey.cutShort⟩
  | answer ask duration reply asks =>
      obtain ⟨rfl, sited, rfl⟩ := stands.of_asking asks
      obtain ⟨later, isAhead, enters⟩ := enters_resume raised reply asks sited
      obtain ⟨more, learned⟩ := state.tables_learn reply
      obtain ⟨single, fits, _⟩ := state.asks asks sited
      obtain ⟨task, rest, rfl, quiet, rfl⟩ := enters.of_failed ended
      rw [isAhead] at plan
      rw [quiet] at enters ⊢
      have proceeds := Journey.proceed plan accomplished
        (.ofExchange settings single fits duration reply) learned enters rfl
      refine ⟨done ++ [ask.task], task, rest, rfl, ?_⟩
      simpa [exchange] using proceeds.cutShort
  | gathered job values works complete isOk =>
      obtain ⟨rfl, sited, later, generators, acts, isAhead, serves, conduct⟩ :=
        stands.of_job works
      obtain ⟨_, _, gathered⟩ := conduct.gatherAll
      obtain ⟨after, isAfter, enters⟩ := enters_afterBatch raised works sited
      obtain ⟨task, rest, rfl, quiet, rfl⟩ := enters.of_failed ended
      rw [isAfter] at plan
      rw [quiet] at enters ⊢
      have proceeds := Journey.proceed plan accomplished
        (gathered.completed serves complete isOk) (List.append_nil _).symm enters rfl
      exact ⟨_, task, rest, rfl, proceeds.cutShort⟩
  | spoiled job source works complete isError =>
      obtain ⟨rfl, sited, later, generators, acts, isAhead, serves, conduct⟩ :=
        stands.of_job works
      obtain ⟨_, _, gathered⟩ := conduct.gatherAll
      cases ended
      rw [State.isCancelled_of_job works] at isCancelled
      have cancelled := Batch.Report.cancelled_of_result_eq_error isError isCancelled
      obtain ⟨item, member, uncalled⟩ := gathered.exists_uncalled serves complete cancelled
      rw [isAhead] at plan journey
      refine ⟨done, job.task, later, State.stage?_of_job works source, ?_⟩
      rw [List.append_nil]
      refine ⟨journey.survey, Or.inr ⟨item, member, ?_⟩⟩
      rw [← threadOf_partOf,
        accomplished.partOf_head plan (gathered.account_of_isComplete serves complete)]
      exact uncalled

variable {index : Nat} {generator : Random.Generator} {happenings : List Happening}
  {final : World}

/-- A cancelled tenant was cut short at a step of the stage that it names. -/
theorem World.cutShort_of_run
    (runs : World.run settings ⟨raised, Tenant.initial index generator⟩ happenings =
      some (final, effects))
    (ended : final.state.position = .ended (some failure))
    (isCancelled : failure.isCancelled = true) :
    ∃ done task later, failure.stage? = some task.stage ∧
      CutShort settings final.state.tables effects done task later := by
  refine (travels_induction
    (motive := fun world effects => ∀ failure, world.state.position = .ended (some failure) →
      failure.isCancelled = true → ∃ done task later, failure.stage? = some task.stage ∧
        CutShort settings world.state.tables effects done task later)
    ?_ ?_ ?_ runs).2 failure ended isCancelled
  · intro _ _ _ _ _ _ travels _ moves _ _ ended isCancelled
    exact travels.cutShort_of_moves moves ended isCancelled
  · intro _ ended
    rw [initial_eq] at ended
    cases ended
  · intro _ _ soFar
    exact soFar

/-! ## What was left -/

namespace CutShort

/-- The steps after the one at which a tenant was cut short were not entered. -/
theorem partOf_of_mem_later
    (cut : CutShort settings tables effects done task later)
    {left : Task}
    (member : left ∈ later) :
    partOf left effects = [] := by
  have distinct := settings.nodup_plan
  rw [cut.survey.plan] at distinct
  obtain ⟨_, distinctAhead, apart⟩ := List.nodup_append.mp distinct
  refine cut.survey.untouched left ?_ ?_
  · intro isDone
    exact apart left isDone left (List.mem_cons_of_mem _ member) rfl
  · rw [List.head?_cons, ne_eq, Option.some.injEq]
    rintro rfl
    exact (List.nodup_cons.mp distinctAhead).1 member

/-- Every planned call has begun if the steps that were left make none. -/
theorem everyCallBegins_iff
    (cut : CutShort settings tables effects done task later) :
    EveryCallBegins settings effects ↔ ∀ left ∈ task :: later, left.items settings = [] := by
  have plan := cut.survey.plan
  constructor
  · intro begun left member
    have planned : left ∈ settings.plan := by
      rw [plan]
      exact List.mem_append_right _ member
    have silent : partOf left effects = [] := by
      rcases List.mem_cons.mp member with rfl | after
      · rcases cut.silent with silent | ⟨item, isItem, uncalled⟩
        · exact silent
        · exact absurd uncalled (exists_call_iff.mp (begun left planned item isItem))
      · exact cut.partOf_of_mem_later after
    refine List.eq_nil_iff_forall_not_mem.mpr ?_
    intro item isItem
    exact exists_call_iff.mp (begun left planned item isItem) (calls_threadOf_eq_nil silent item)
  · intro nothing other planned item isItem
    rw [exists_call_iff]
    rw [plan] at planned
    rcases List.mem_append.mp planned with isDone | left
    · rw [← threadOf_partOf]
      exact (cut.survey.completed other isDone).calls_threadOf_ne_nil isItem
    · rw [nothing other left] at isItem
      cases isItem

/-- Where the steps that were left make no call, all steps are completed. -/
theorem completes
    (cut : CutShort settings tables effects done task later)
    (begun : EveryCallBegins settings effects) :
    ∀ other ∈ settings.plan, Completes settings other effects := by
  intro other planned
  rw [cut.survey.plan] at planned
  rcases List.mem_append.mp planned with isDone | left
  · exact (cut.survey.completed other isDone).completes
  · have nothing := cut.everyCallBegins_iff.mp begun other left
    obtain ⟨results, pending, underWay, account⟩ := cut.survey.account other
    have uncalled : calls (partOf other effects) = [] := by
      refine List.eq_nil_iff_forall_not_mem.mpr ?_
      intro ask asked
      have isItem := account.items _ (mem_calls_iff.mp asked) ask.1 rfl
      rw [nothing] at isItem
      cases isItem
    refine ⟨by simp [uncalled], by simp [nothing], ?_⟩
    rintro rfl
    cases nothing

/-- All tables have been created if the creation of none is left. -/
theorem length_createdTables_eq_iff
    (cut : CutShort settings tables effects done task later)
    (silent : partOf task effects = [])
    (other : task.stage ≠ .createTable) :
    (createdTables effects).length = settings.tableCount ↔
      ∀ left ∈ later, left.stage ≠ .createTable := by
  have planned := settings.sum_plan .createTable
  have created := cut.survey.measure_eq (fun part => (createdTables part).length) rfl (by simp)
  have ofDone : ∀ before ∈ done, (createdTables (partOf before effects)).length =
      if before.stage = .createTable then (before.items settings).length else 0 :=
    fun before member => (cut.survey.completed before member).length_createdTables
  have ofLater : ∀ left ∈ later, (createdTables (partOf left effects)).length = 0 := by
    intro left member
    rw [cut.partOf_of_mem_later member]
    rfl
  rw [cut.survey.plan, List.map_append, List.sum_append, List.map_cons, List.sum_cons] at planned
  rw [cut.survey.plan, List.map_append, List.sum_append, List.map_cons, List.sum_cons, silent,
    List.map_congr_left ofDone, List.map_congr_left ofLater] at created
  have left : (later.map fun left =>
      if left.stage = .createTable then (left.items settings).length else 0).sum = 0 ↔
        ∀ left ∈ later, left.stage ≠ .createTable := by
    rw [List.sum_eq_zero_iff_forall_eq_nat, List.forall_mem_map]
    refine forall₂_congr fun left _ => ?_
    cases left <;> simp [Task.stage, Task.items]
  have nothing : (createdTables []).length + (later.map fun _ => 0).sum = 0 := by
    simp [createdTables, endings]
  rw [← left]
  simp only [Settings.itemsPerTable, if_neg other, reduceCtorEq, if_false] at planned
  omega

/-- Nothing was left to call for exactly if all tables have been created and the
step at which the tenant was cut short, and the searches after it, are
empty. -/
theorem everyCallBegins_iff_of_createdTables
    (cut : CutShort settings tables effects done task later) :
    EveryCallBegins settings effects ↔
      (createdTables effects).length = settings.tableCount ∧ settings.searchCount = 0 ∧
        (task.stage = .search ∨ task.stage = .addRow ∧ settings.rowCount = 0) := by
  have plan := cut.survey.plan
  have silent : task.items settings = [] → partOf task effects = [] := by
    intro none
    refine cut.silent.resolve_right ?_
    rintro ⟨item, member, _⟩
    rw [none] at member
    cases member
  rw [cut.everyCallBegins_iff, List.forall_mem_cons]
  cases task with
  | signUp | createTable | addColumn => simp [Task.items, Task.stage]
  | insertRows table =>
      obtain rfl := Settings.later_of_insertRows plan
      have created := fun none => cut.length_createdTables_eq_iff
        (silent (Task.items_insertRows_eq_nil_iff.mpr none)) (by simp [Task.stage])
      rw [Task.items_insertRows_eq_nil_iff, List.forall_mem_cons, Task.items_search_eq_nil_iff,
        settings.forall_items_tasksFrom_iff]
      constructor
      · rintro ⟨noRows, noSearches, nothing⟩
        have uncreated : (Task.search table).stage ≠ .createTable := by simp [Task.stage]
        have all := (created noRows).mpr (List.forall_mem_cons.mpr ⟨uncreated, nothing⟩)
        exact ⟨all, noSearches, Or.inr ⟨rfl, noRows⟩⟩
      · rintro ⟨all, noSearches, stage | ⟨_, noRows⟩⟩
        · cases stage
        · exact ⟨noRows, noSearches, (List.forall_mem_cons.mp ((created noRows).mp all)).2⟩
  | search table =>
      obtain rfl := Settings.later_of_search plan
      have created := fun none => cut.length_createdTables_eq_iff
        (silent (Task.items_search_eq_nil_iff.mpr none)) (by simp [Task.stage])
      rw [Task.items_search_eq_nil_iff, settings.forall_items_tasksFrom_iff]
      constructor
      · rintro ⟨noSearches, nothing⟩
        exact ⟨(created noSearches).mpr nothing, noSearches, Or.inl rfl⟩
      · rintro ⟨all, noSearches, _⟩
        exact ⟨noSearches, (created noSearches).mp all⟩

end CutShort

/-- The outcome of a tenant that stopped for a failure. -/
theorem State.of_outcome_of_failed
    {outcome : Outcome}
    (ends : state.outcome? = some outcome)
    (ended : state.position = .ended (some failure)) :
    outcome.tables = state.tables ∧ outcome.failedStage = failure.stage? := by
  simp only [outcome?, ended, Option.some.injEq] at ends
  subst ends
  exact ⟨rfl, rfl⟩

/-- What a cancelled tenant was cut short at shows in its outcome. -/
theorem World.exists_cutShort_of_cancelled
    {outcome : Outcome}
    (runs : World.run settings ⟨raised, Tenant.initial index generator⟩ happenings =
      some (final, effects))
    (ends : final.state.outcome? = some outcome)
    (cancelled : outcome.cancelled = true) :
    ∃ done task later, CutShort settings outcome.tables effects done task later ∧
      outcome.tables = createdTables effects ∧ outcome.failedStage = some task.stage := by
  obtain ⟨failure, ended, isCancelled⟩ := State.of_cancelled ends cancelled
  obtain ⟨tables, stage⟩ := State.of_outcome_of_failed ends ended
  obtain ⟨done, task, later, named, cut⟩ := World.cutShort_of_run runs ended isCancelled
  rw [tables]
  exact ⟨done, task, later, cut, World.tables_eq_of_run runs, stage.trans named⟩

/-- Some planned call of a cancelled tenant has never begun, unless it created
all of its tables, makes no searches, and was stopped before the searches, or
before the rows of which there are none either.  Then all of its steps are
completed. -/
theorem cancelled_with_nothing_left_iff
    {outcome : Outcome}
    (runs : World.run settings ⟨raised, Tenant.initial index generator⟩ happenings =
      some (final, effects))
    (ends : final.state.outcome? = some outcome)
    (cancelled : outcome.cancelled = true) :
    (EveryCallBegins settings effects ↔
        outcome.tables.length = settings.tableCount ∧ settings.searchCount = 0 ∧
          (outcome.failedStage = some .search ∨
            outcome.failedStage = some .addRow ∧ settings.rowCount = 0)) ∧
      (EveryCallBegins settings effects →
        ∀ task ∈ settings.plan, Completes settings task effects) := by
  obtain ⟨done, task, later, cut, tables, stage⟩ :=
    World.exists_cutShort_of_cancelled runs ends cancelled
  refine ⟨?_, cut.completes⟩
  rw [tables, stage, Option.some.injEq, Option.some.injEq]
  exact cut.everyCallBegins_iff_of_createdTables

/-- A tenant that is signed up when the signal is raised: the creation of its
first table never begins. -/
theorem cancelled_with_nothing_left_iff_after_signup :
    let settings : Settings :=
      { workload := { tablesPerTenant := 1 }, policy := ⟨3, .none⟩, classifier := .standard }
    let happenings : List Happening :=
      [.event (.begin (.returned ())), .raise,
        .event (.answered ⟨1⟩ (.returned ⟨200, .nothing⟩))]
    ∃ final effects outcome,
      World.run settings ⟨false, Tenant.initial 0 (.ofSeed 7)⟩ happenings =
        some (final, effects) ∧
      final.state.outcome? = some outcome ∧ outcome.cancelled = true ∧
      ¬EveryCallBegins settings effects := by
  intro settings happenings
  have runsOn :
      (World.run settings ⟨false, Tenant.initial 0 (.ofSeed 7)⟩ happenings).any
        (fun ended => ended.1.state.outcome?.any fun outcome =>
          outcome.cancelled && outcome.tables.isEmpty) = true := by
    rw [initial_eq]
    simp [settings, happenings, World.run, World.step, State.step, State.enter, State.signUp,
      State.answered, State.afterCall, State.nextTable, State.stopFor, State.moveTo,
      State.outcome?, Outcome.fail, Failure.isCancelled]
  obtain ⟨⟨final, effects⟩, runs, ended⟩ := (Option.any_eq_true _ _).mp runsOn
  obtain ⟨outcome, ends, shown⟩ := (Option.any_eq_true _ _).mp ended
  rw [Bool.and_eq_true, List.isEmpty_iff] at shown
  obtain ⟨cancelled, none⟩ := shown
  refine ⟨final, effects, outcome, runs, ends, cancelled, ?_⟩
  rw [(cancelled_with_nothing_left_iff runs ends cancelled).1, none]
  rintro ⟨tables, _⟩
  cases tables

/-- A tenant without rows and searches for whose last column the signal is
raised: it is cancelled with all of its calls made. -/
theorem cancelled_after_the_last_call :
    let settings : Settings :=
      { workload := { tablesPerTenant := 1, rowsPerTable := 0, searchRequests := 0 },
        policy := ⟨3, .none⟩, classifier := .standard }
    let answer : Event := .answered ⟨1⟩ (.returned ⟨200, .nothing⟩)
    let happenings : List Happening :=
      .event (.begin (.returned ())) :: List.replicate 6 (.event answer) ++
        [.raise, .event answer]
    ∃ final effects outcome,
      World.run settings ⟨false, Tenant.initial 0 (.ofSeed 7)⟩ happenings =
        some (final, effects) ∧
      final.state.outcome? = some outcome ∧ outcome.cancelled = true ∧
      EveryCallBegins settings effects := by
  intro settings answer happenings
  have runsOn :
      (World.run settings ⟨false, Tenant.initial 0 (.ofSeed 7)⟩ happenings).any
        (fun ended => ended.1.state.outcome?.any fun outcome =>
          outcome.cancelled && decide (outcome.tables.length = 1) &&
            decide (outcome.failedStage = some .addRow)) = true := by
    rw [initial_eq]
    simp [settings, answer, happenings, List.replicate, World.run, World.step, State.step,
      State.enter, State.signUp, State.answered, State.afterCall, State.nextTable,
      State.createTable_eq, State.addColumns, State.stopFor, State.moveTo, State.withTable,
      Payload.columns, State.outcome?, Outcome.fail, Failure.isCancelled, Failure.stage?]
  obtain ⟨⟨final, effects⟩, runs, ended⟩ := (Option.any_eq_true _ _).mp runsOn
  obtain ⟨outcome, ends, shown⟩ := (Option.any_eq_true _ _).mp ended
  simp only [Bool.and_eq_true, decide_eq_true_eq] at shown
  obtain ⟨⟨cancelled, one⟩, named⟩ := shown
  obtain ⟨done, task, later, cut, tables, stage⟩ :=
    World.exists_cutShort_of_cancelled runs ends cancelled
  refine ⟨final, effects, outcome, runs, ends, cancelled, ?_⟩
  refine cut.everyCallBegins_iff_of_createdTables.mpr ⟨?_, rfl, Or.inr ⟨?_, rfl⟩⟩
  · rw [← tables, one]
    rfl
  · exact Option.some.inj (stage.symm.trans named)

end Tenant
end TenantLoad
