import TenantLoad.Proofs.Tenant.Order
import TenantLoad.Proofs.Tenant.Records

/-!
# What a success stands for

A tenant that reports no error has completed every step of its plan.  So the
entries of every stage can be counted from the plan: one for each single call,
and one that is ok for each row and each search of every table.
-/

namespace TenantLoad
namespace Tenant

variable {settings : Settings} {effects : List Effect} {done ahead : List Task}
  {tables : List Table} {task : Task} {part : List Effect}

/-! ## Counts over the plan -/

/-- What adds up over the effects adds up over the steps of the plan. -/
theorem Survey.measure_eq
    (survey : Survey settings tables effects done ahead)
    (measure : List Effect → Nat)
    (nil : measure [] = 0)
    (append : ∀ earlier later, measure (earlier ++ later) = measure earlier + measure later) :
    measure effects = (settings.plan.map fun task => measure (partOf task effects)).sum := by
  have parts : ∀ tasks : List Task,
      measure (tasks.flatMap fun task => partOf task effects) =
        (tasks.map fun task => measure (partOf task effects)).sum := by
    intro tasks
    induction tasks with
    | nil => exact nil
    | cons task tasks inductionHypothesis =>
        rw [List.flatMap_cons, append, inductionHypothesis, List.map_cons, List.sum_cons]
  calc measure effects
      _ = measure (settings.plan.flatMap fun task => partOf task effects) := by
        rw [← survey.planned]
      _ = _ := parts settings.plan

/-- The number of items in a stage of one table. -/
def Settings.itemsPerTable (settings : Settings) : Stage → Nat
  | .signup => 0
  | .createTable => 1
  | .addColumn => 5
  | .addRow => settings.rowCount
  | .search => settings.searchCount

/-- The items of all planned steps of a stage. -/
theorem Settings.sum_plan
    (settings : Settings)
    (stage : Stage) :
    (settings.plan.map fun task =>
        if task.stage = stage then (task.items settings).length else 0).sum =
      (if stage = .signup then 1 else 0) + settings.tableCount * settings.itemsPerTable stage := by
  have table : ∀ table, ((tableTasks table).map fun task =>
      if task.stage = stage then (task.items settings).length else 0).sum =
        settings.itemsPerTable stage := by
    intro table
    cases stage <;>
      simp [tableTasks, columnTasks, Payload.columns, Task.stage, Task.items, itemsPerTable]
  rw [plan, List.map_cons, List.sum_cons, sum_map_tableTasks table, List.length_range]
  cases stage <;> simp [Task.stage, Task.items]

/-! ## Completed steps -/

/-- One call for every item of a completed step has returned. -/
theorem Completed.countP_isReturned
    (completed : Completed settings tables task part)
    {item : Option Nat}
    (member : item ∈ task.items settings) :
    ((endings (threadOf task item part)).countP fun ending => ending.2.2.isReturned) = 1 := by
  obtain ⟨results, account, succeeded⟩ := completed.account
  obtain ⟨errand, dialogue⟩ := account.threads item member
  rw [dialogue.countP_isReturned, (succeeded item member).countP_isReturned]

/-- A completed step has as many entries that are ok as it has items. -/
theorem Completed.countP_ok
    (completed : Completed settings tables task part)
    (reported : Reported part) :
    ((records part).countP fun record => record.2.ok) = (task.items settings).length := by
  obtain ⟨results, account, _⟩ := completed.account
  rw [account.countP_records]
  have each : ((task.items settings).map fun item =>
      (records (threadOf task item part)).countP fun record => record.2.ok) =
        (task.items settings).map fun _ => 1 := by
    refine List.map_congr_left ?_
    intro item member
    rw [(reported.threadOf task item).countP_ok, completed.countP_isReturned member]
  rw [each]
  simp

/-- A completed single call has one entry. -/
theorem Completed.length_records
    (completed : Completed settings tables task part)
    (single : task.isSingle = true)
    (reported : Reported part) :
    (records part).length = (task.items settings).length := by
  obtain ⟨call, reply, shown, _⟩ := completed.endings_eq single
  rw [← List.Forall₂.length_eq reported, heard, shown, Task.items_of_isSingle settings single]
  rfl

/-- The creation of a table is completed with one table, and no other step
makes one. -/
theorem Completed.length_createdTables
    (completed : Completed settings tables task part) :
    (createdTables part).length =
      if task.stage = .createTable then (task.items settings).length else 0 := by
  cases single : task.isSingle with
  | true =>
      obtain ⟨call, reply, shown, fits⟩ := completed.endings_eq single
      rw [createdTables, shown]
      cases task <;> cases call <;> first | rfl | cases fits
  | false =>
      obtain ⟨results, account, _⟩ := completed.account
      have none : createdTables part = [] := by
        refine List.filterMap_eq_nil_iff.mpr ?_
        intro ending ended
        have fits := account.fits _
          (account.mem_calls_of_mem_answeredCalls (List.mem_map_of_mem ended))
        obtain ⟨origin, call, attempt⟩ := ending
        cases call with
        | createTable request =>
            obtain ⟨_, table, rfl⟩ := fits.of_createTable
            cases single
        | _ => rfl
      rw [none]
      cases task <;> first | rfl | cases single

/-! ## A success -/

/-- All of some entries are ok, and they are so many. -/
def AllOk (count : Nat) (entries : List (Origin × Metrics.Entry)) : Prop :=
  entries.length = count ∧ ∀ record ∈ entries, record.2.ok = true

/-- So many of some entries are ok. -/
def CountsOk (count : Nat) (entries : List (Origin × Metrics.Entry)) : Prop :=
  (entries.countP fun record => record.2.ok) = count

/-- All of the planned work has been done. -/
structure Delivered (settings : Settings) (effects : List Effect) (outcome : Outcome) : Prop where
  connected : .connect (.returned ()) ∈ effects
  tables : outcome.tables.length = settings.tableCount
  signup : AllOk 1 (records (stageOf .signup effects))
  creations : AllOk settings.tableCount (records (stageOf .createTable effects))
  columns : AllOk (5 * settings.tableCount) (records (stageOf .addColumn effects))
  rows : CountsOk (settings.tableCount * settings.rowCount) (records (stageOf .addRow effects))
  row : ∀ table < settings.tableCount, ∀ row < settings.rowCount,
    CountsOk 1 (records (threadOf (.insertRows table) (some row) effects))
  searches : CountsOk (settings.tableCount * settings.searchCount)
    (records (stageOf .search effects))
  search : ∀ table < settings.tableCount, ∀ search < settings.searchCount,
    CountsOk 1 (records (threadOf (.search table) (some search) effects))

section Finished

variable (survey : Survey settings tables effects settings.plan [])
include survey

/-- As many tables as planned have been created once all steps are done. -/
theorem Survey.length_createdTables :
    (createdTables effects).length = settings.tableCount := by
  have planned := settings.sum_plan .createTable
  rw [survey.measure_eq (fun part => (createdTables part).length) rfl (by simp)]
  have each : ∀ task ∈ settings.plan, (createdTables (partOf task effects)).length =
      if task.stage = .createTable then (task.items settings).length else 0 :=
    fun task member => (survey.completed task member).length_createdTables
  rw [List.map_congr_left each, planned]
  simp [Settings.itemsPerTable]

variable (reported : Reported effects)
include reported

/-- The entries of a stage that are ok once all steps are done. -/
theorem Survey.countP_ok
    (stage : Stage) :
    ((records (stageOf stage effects)).countP fun record => record.2.ok) =
      (if stage = .signup then 1 else 0) +
        settings.tableCount * settings.itemsPerTable stage := by
  rw [survey.measure_eq
    (fun part => (records (stageOf stage part)).countP fun record => record.2.ok)
    rfl (by simp), ← settings.sum_plan stage]
  refine congrArg List.sum (List.map_congr_left ?_)
  intro task member
  rw [stageOf_eq_ite stage fun _ => task_of_mem_partOf]
  split
  · exact (survey.completed task member).countP_ok (reported.partOf task)
  · rfl

/-- All entries of a stage of single calls are ok once all steps are done. -/
theorem Survey.allOk
    (stage : Stage)
    (single : stage ∈ [Stage.signup, .createTable, .addColumn]) :
    AllOk ((if stage = .signup then 1 else 0) +
      settings.tableCount * settings.itemsPerTable stage) (records (stageOf stage effects)) := by
  have counted := survey.countP_ok reported stage
  have isSingle : ∀ task : Task, task.stage = stage → task.isSingle = true := by
    rintro task rfl
    cases task <;> first | rfl | simp [Task.stage] at single
  have length : (records (stageOf stage effects)).length =
      (if stage = .signup then 1 else 0) +
        settings.tableCount * settings.itemsPerTable stage := by
    rw [survey.measure_eq (fun part => (records (stageOf stage part)).length) rfl (by simp),
      ← settings.sum_plan stage]
    refine congrArg List.sum (List.map_congr_left ?_)
    intro task member
    rw [stageOf_eq_ite stage fun _ => task_of_mem_partOf]
    split
    · rename_i same
      exact (survey.completed task member).length_records (isSingle task same)
        (reported.partOf task)
    · rfl
  exact ⟨length, List.countP_eq_length.mp (counted.trans length.symm)⟩

/-- Exactly one entry of every item is ok once all steps are done. -/
theorem Survey.countsOk
    {item : Option Nat}
    (planned : task ∈ settings.plan)
    (member : item ∈ task.items settings) :
    CountsOk 1 (records (threadOf task item effects)) := by
  have completed := survey.completed task planned
  rw [CountsOk, (reported.threadOf task item).countP_ok, ← threadOf_partOf]
  exact completed.countP_isReturned member

end Finished

/-- Who reports no error has done all of the planned work. -/
theorem Journey.delivered
    {world : World}
    {past : List Effect}
    {outcome : Outcome}
    (journey : Journey settings world effects done ahead past part)
    (reported : Reported effects)
    (created : world.state.tables = createdTables effects)
    (arrives : Run.State.arrival? world.state = some outcome)
    (succeeded : outcome.error = none) :
    Delivered settings effects outcome := by
  have survey := journey.survey
  obtain ⟨failure, ended, tables, error, _⟩ := State.of_arrival arrives
  obtain rfl : failure = none := Option.map_eq_none_iff.mp (error.symm.trans succeeded)
  obtain ⟨rfl, rfl⟩ := journey.stands.of_ended ended
  obtain rfl : done = settings.plan := by rw [journey.plan, List.append_nil]
  have signedUp : Task.signUp ∈ settings.plan := Settings.mem_plan_iff.mpr (Or.inl rfl)
  have planned : ∀ {task : Task} {table : Nat}, table < settings.tableCount →
      task ∈ tableTasks table → task ∈ settings.plan :=
    fun inside member => Settings.mem_plan_iff.mpr (Or.inr ⟨_, inside, member⟩)
  refine
    { connected := ?_
      tables := ?_
      signup := ?_
      creations := ?_
      columns := ?_
      rows := ?_
      row := ?_
      searches := ?_
      search := ?_ }
  · have connects := (survey.completed .signUp signedUp).connected rfl
    exact (List.mem_filter.mp connects).1
  · rw [tables, created, survey.length_createdTables]
  · simpa [Settings.itemsPerTable] using survey.allOk reported .signup (by simp)
  · simpa [Settings.itemsPerTable] using survey.allOk reported .createTable (by simp)
  · simpa [Settings.itemsPerTable, Nat.mul_comm] using
      survey.allOk reported .addColumn (by simp)
  · simpa [CountsOk, Settings.itemsPerTable] using survey.countP_ok reported .addRow
  · intro table inside row within
    refine survey.countsOk reported (planned inside (by simp [tableTasks, columnTasks])) ?_
    exact List.mem_map_of_mem (List.mem_range.mpr within)
  · simpa [CountsOk, Settings.itemsPerTable] using survey.countP_ok reported .search
  · intro table inside search within
    refine survey.countsOk reported (planned inside (by simp [tableTasks, columnTasks])) ?_
    exact List.mem_map_of_mem (List.mem_range.mpr within)

end Tenant
end TenantLoad
