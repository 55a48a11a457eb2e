import TenantLoad.Proofs.Tenant.Conduct
import TenantLoad.Proofs.Tenant.Draws

/-!
# What one event does to a tenant

A tenant at work waits for a single call or runs a batch; `asking?` and `job?`
tell which.  `Moves` lists the effects of the events case by case, and
`Enters` lists how the work goes on with the steps that are left.  Facts about
runs of tenants are proved of one event by cases on these.
-/

namespace TenantLoad
namespace Tenant

/-- A single call under way, with what its failure makes of the work. -/
structure Ask where
  task : Task
  call : Api.Call
  failure : Api.Error → Failure

/-- A batch under way, with what its failure makes of the work. -/
structure Job where
  task : Task
  settings : Batch.Settings
  errand : Nat → Option Errand
  batch : Calls
  failure : Batch.Failure → Failure

namespace State

/-- The single call under way. -/
def asking? (state : State) : Option Ask :=
  match state.position with
  | .signingUp => some ⟨.signUp, .signup state.identity, .signup state.identity.email⟩
  | .creatingTable request =>
    some ⟨.createTable state.tables.length, .createTable request, .createTable request.name⟩
  | .addingColumn table column _ =>
    some ⟨.addColumn state.newest column, .addColumn table.slug column,
      .addColumn table.slug column.name⟩
  | _ => none

/-- The batch under way. -/
def job? (settings : Settings) (state : State) : Option Job :=
  match state.position with
  | .insertingRows table rows batch =>
    some ⟨.insertRows state.newest, settings.rowBatch, rowErrand table rows, batch,
      .insertRows table.slug⟩
  | .searching table searches batch =>
    some ⟨.search state.newest, settings.searchBatch, searchErrand table searches, batch,
      .search table.slug⟩
  | _ => none

/-- The steps that are left, from the one under way on. -/
def ahead (settings : Settings) (state : State) : List Task :=
  match state.position with
  | .waiting | .signingUp => settings.plan
  | .creatingTable _ => settings.tasksFrom state.tables.length
  | .addingColumn _ column later =>
    columnTasks state.newest (column :: later) ++ settings.tasksFrom state.tables.length
  | .insertingRows .. => columnTasks state.newest [] ++ settings.tasksFrom state.tables.length
  | .searching .. => .search state.newest :: settings.tasksFrom state.tables.length
  | .ended _ | .crashed => []

/-- The tables of a tenant agree with the step it is at. -/
def Sited (settings : Settings) (state : State) : Prop :=
  match state.position with
  | .waiting | .signingUp => state.tables = []
  | .creatingTable _ => state.tables.length < settings.tableCount
  | .addingColumn table .. | .insertingRows table .. | .searching table .. =>
    state.tables.getLast? = some table
  | .ended _ | .crashed => True

/-- The state in which another table is known once its creation is
answered. -/
def learn (reply : Api.Reply) (state : State) : State :=
  match state.position with
  | .creatingTable request => state.withTable ⟨request.name, reply.slug⟩
  | _ => state

/-- How the work goes on after the single call under way. -/
def resume (settings : Settings) (raised : Bool) (reply : Api.Reply) (state : State) :
    State × List Effect :=
  match state.position with
  | .signingUp => state.nextTable settings raised
  | .creatingTable request =>
    (state.withTable ⟨request.name, reply.slug⟩).enter raised .addColumn fun state =>
      state.addColumns settings raised ⟨request.name, reply.slug⟩ Payload.columns
  | .addingColumn table _ later => state.addColumns settings raised table later
  | _ => (state, [])

/-- How the work goes on after the batch under way. -/
def afterBatch (settings : Settings) (raised : Bool) (state : State) : State × List Effect :=
  match state.position with
  | .insertingRows table .. => state.enter raised .search (startSearches settings table)
  | .searching .. => state.nextTable settings raised
  | _ => (state, [])

/-- The state with the batch under way at another place. -/
def withBatch (batch : Calls) (state : State) : State :=
  match state.position with
  | .insertingRows table rows _ => state.moveTo (.insertingRows table rows batch)
  | .searching table searches _ => state.moveTo (.searching table searches batch)
  | _ => state

section Views

variable (settings : Settings) (raised : Bool) (state : State)

theorem answered_eq
    (duration : Metrics.Millis)
    (attempt : Api.Attempt) :
    state.answered settings raised duration attempt =
      state.asking?.map fun ask =>
        state.afterCall ask.task ask.call duration attempt ask.failure fun reply =>
          state.resume settings raised reply := by
  unfold answered asking? resume
  cases position : state.position <;> rfl

theorem inBatch_eq
    (move : Batch.Settings → Calls → Option Calls)
    (duration : Metrics.Millis)
    (act : CallAct) :
    state.inBatch settings move duration act =
      (state.job? settings).bind fun job =>
        (move job.settings job.batch).map fun next =>
          (state.withBatch next, itemEffects job.task job.errand duration job.batch act) := by
  unfold inBatch job? withBatch
  cases position : state.position <;> rfl

theorem gather_eq :
    state.gather settings raised =
      (state.job? settings).bind fun job =>
        if job.batch.gatherAll.isComplete then
          match (job.batch.gatherAll.report job.settings).result with
          | .error source => some (state.stopFor (job.failure source), [])
          | .ok _ => some (state.afterBatch settings raised)
        else
          none := by
  unfold gather job? afterBatch
  cases position : state.position <;> rfl

end Views

end State

/-! ## Events -/

/-- The effect of an event on a tenant. -/
inductive Moves (settings : Settings) (raised : Bool) (state : State) :
    Event → State → List Effect → Prop
  | refuse
      (connection : Retry.Attempt Unit Api.Error)
      (waiting : state.position = .waiting)
      (isRaised : raised = true) :
      Moves settings raised state (.begin connection) (state.stopFor (.cancelled .signup)) []
  | connect
      (waiting : state.position = .waiting)
      (isUnraised : raised = false) :
      Moves settings raised state (.begin (.returned ())) (state.moveTo .signingUp)
        [.connect (.returned ()), .call ⟨.signUp, none, 1⟩ (.signup state.identity)]
  | unconnected
      (source : Api.Error)
      (waiting : state.position = .waiting)
      (isUnraised : raised = false) :
      Moves settings raised state (.begin (.failed source))
        (state.stopFor (.connect state.index source)) [.connect (.failed source)]
  | crashUnconnected
      (message : String)
      (waiting : state.position = .waiting)
      (isUnraised : raised = false) :
      Moves settings raised state (.begin (.crashed message)) (state.moveTo .crashed)
        [.connect (.crashed message)]
  | answer
      (ask : Ask)
      (duration : Metrics.Millis)
      (reply : Api.Reply)
      (asks : state.asking? = some ask) :
      Moves settings raised state (.answered duration (.returned reply))
        (state.resume settings raised reply).1
        (returning ⟨ask.task, none, 1⟩ ask.call duration [] (.returned reply) ++
          (state.resume settings raised reply).2)
  | fail
      (ask : Ask)
      (duration : Metrics.Millis)
      (error : Api.Error)
      (asks : state.asking? = some ask) :
      Moves settings raised state (.answered duration (.failed error))
        (state.stopFor (ask.failure error))
        (returning ⟨ask.task, none, 1⟩ ask.call duration [] (.failed error))
  | crash
      (ask : Ask)
      (duration : Metrics.Millis)
      (message : String)
      (asks : state.asking? = some ask) :
      Moves settings raised state (.answered duration (.crashed message))
        (state.moveTo .crashed)
        (returning ⟨ask.task, none, 1⟩ ask.call duration [] (.crashed message))
  | act
      (job : Job)
      (duration : Metrics.Millis)
      (act : CallAct)
      (next : Calls)
      (works : state.job? settings = some job)
      (enabled : job.batch.act job.settings raised act = some next) :
      Moves settings raised state (.act duration act) (state.withBatch next)
        (itemEffects job.task job.errand duration job.batch act)
  | turn
      (job : Job)
      (duration : Metrics.Millis)
      (event : Batch.Event Api.Reply Api.Error)
      (next : Calls)
      (works : state.job? settings = some job)
      (enabled : job.batch.step job.settings raised event = some next) :
      Moves settings raised state (.batch duration event) (state.withBatch next)
        (itemEffects job.task job.errand duration job.batch event.opening)
  | gathered
      (job : Job)
      (values : List Api.Reply)
      (works : state.job? settings = some job)
      (complete : job.batch.gatherAll.isComplete = true)
      (isOk : (job.batch.gatherAll.report job.settings).result = .ok values) :
      Moves settings raised state .gather (state.afterBatch settings raised).1
        (state.afterBatch settings raised).2
  | spoiled
      (job : Job)
      (failure : Batch.Failure)
      (works : state.job? settings = some job)
      (complete : job.batch.gatherAll.isComplete = true)
      (isError : (job.batch.gatherAll.report job.settings).result = .error failure) :
      Moves settings raised state .gather (state.stopFor (job.failure failure)) []

variable {settings : Settings} {raised : Bool} {state next : State} {event : Event}
  {effects : List Effect}

/-- Every event that can happen is one of the cases. -/
theorem Moves.of_step
    (steps : state.step settings raised event = some (next, effects)) :
    Moves settings raised state event next effects := by
  cases event with
  | begin connection =>
      simp only [State.step] at steps
      split at steps
      · rename_i waiting
        cases raised with
        | true =>
            cases steps
            exact .refuse connection waiting rfl
        | false =>
            cases connection with
            | returned value =>
                cases steps
                exact .connect waiting rfl
            | failed source =>
                cases steps
                exact .unconnected source waiting rfl
            | crashed message =>
                cases steps
                exact .crashUnconnected message waiting rfl
      · cases steps
  | answered duration attempt =>
      simp only [State.step, State.answered_eq, Option.map_eq_some_iff] at steps
      obtain ⟨ask, asks, ends⟩ := steps
      cases attempt with
      | returned reply =>
          cases ends
          exact .answer ask duration reply asks
      | failed error =>
          cases ends
          exact .fail ask duration error asks
      | crashed message =>
          cases ends
          exact .crash ask duration message asks
  | act duration act =>
      simp only [State.step, State.inBatch_eq, Option.bind_eq_some_iff,
        Option.map_eq_some_iff] at steps
      obtain ⟨job, works, batch, enabled, ends⟩ := steps
      cases ends
      exact .act job duration act batch works enabled
  | batch duration event =>
      simp only [State.step, State.inBatch_eq, Option.bind_eq_some_iff,
        Option.map_eq_some_iff] at steps
      obtain ⟨job, works, batch, enabled, ends⟩ := steps
      cases ends
      exact .turn job duration event batch works enabled
  | gather =>
      simp only [State.step, State.gather_eq, Option.bind_eq_some_iff] at steps
      obtain ⟨job, works, ends⟩ := steps
      split at ends
      · rename_i complete
        split at ends
        · rename_i failure isError
          cases ends
          exact .spoiled job failure works complete isError
        · rename_i values isOk
          obtain ⟨rfl, rfl⟩ := Prod.ext_iff.mp (Option.some.inj ends)
          exact .gathered job values works complete isOk
      · cases ends

/-! ## The steps that are left -/

/-- How the work goes on with the steps that are left: it ends after the last
one, it is cancelled before the next one, the next one begins, or it crashes
because a batch asks for more slots than there can be. -/
inductive Enters (settings : Settings) (raised : Bool) (state : State) :
    List Task → State → List Effect → Prop
  | finish : Enters settings raised state [] (state.moveTo (.ended none)) []
  | refuse
      (task : Task)
      (later : List Task)
      (isRaised : raised = true) :
      Enters settings raised state (task :: later) (state.stopFor (.cancelled task.stage)) []
  | call
      {next : State}
      (ask : Ask)
      (later : List Task)
      (asks : next.asking? = some ask)
      (ahead : next.ahead settings = ask.task :: later)
      (sited : next.Sited settings)
      (tables : next.tables = state.tables)
      (unopened : opening ask.task = []) :
      Enters settings raised state (ask.task :: later) next [.call ⟨ask.task, none, 1⟩ ask.call]
  | batch
      {next : State}
      (job : Job)
      (later : List Task)
      (generators : List Random.Generator)
      (works : next.job? settings = some job)
      (ahead : next.ahead settings = job.task :: later)
      (sited : next.Sited settings)
      (tables : next.tables = state.tables)
      (begins : Batch.State.begin? job.settings generators = some job.batch)
      (serves : Serves settings state.tables job.settings generators job.task job.errand) :
      Enters settings raised state (job.task :: later) next []
  | crash
      {next : State}
      (task : Task)
      (later : List Task)
      (crashed : next.position = .crashed)
      (tables : next.tables = state.tables)
      (unfit : settings.rowBatch.canBegin = false ∨ settings.searchBatch.canBegin = false) :
      Enters settings raised state (task :: later) next []

variable {table : Table}

theorem State.createTable_eq (state : State) :
    state.createTable =
      let drawn := Payload.newTable state.tables.length state.generator
      ({ state with generator := drawn.2, position := .creatingTable drawn.1 },
        [.call ⟨.createTable state.tables.length, none, 1⟩ (.createTable drawn.1)]) := by
  unfold createTable
  generalize Payload.newTable state.tables.length state.generator = drawn
  rfl

theorem State.insertRows_eq
    (settings : Settings)
    (table : Table)
    (state : State) :
    state.insertRows settings table =
      let drawn := drawRows settings.rowCount state.generator
      ({ state with
          generator := drawn.2
          position :=
            match Batch.State.begin? settings.rowBatch drawn.1.2 with
            | some batch => .insertingRows table drawn.1.1.toArray batch
            | none => .crashed },
        []) := rfl

theorem State.startSearches_eq
    (settings : Settings)
    (table : Table)
    (state : State) :
    state.startSearches settings table =
      let drawn := drawSearches settings.searchCount state.generator
      ({ state with
          generator := drawn.2
          position :=
            match Batch.State.begin? settings.searchBatch drawn.1.2 with
            | some batch => .searching table drawn.1.1.toArray batch
            | none => .crashed },
        []) := rfl

/-! ### The next step -/

/-- The newest table is the one that was created last. -/
theorem State.slug_of_newest
    (newest : state.tables.getLast? = some table) :
    state.tables[state.newest]?.map Table.slug = some table.slug := by
  rw [State.newest, ← List.getLast?_eq_getElem?, newest, Option.map_some]

theorem State.serves_rows
    {rows : List Json}
    {generators : List Random.Generator}
    (newest : state.tables.getLast? = some table)
    (rowCount : rows.length = settings.rowCount)
    (generatorCount : generators.length = settings.rowCount) :
    Serves settings state.tables settings.rowBatch generators (.insertRows state.newest)
      (rowErrand table rows.toArray) where
  batched := rfl
  items := by rw [Task.items, generatorCount]
  width := rfl
  errands := by
    intro index inside
    have within : index < rows.length := by omega
    exact Option.isSome_iff_exists.mp (by simp [rowErrand, within])
  fits := by
    intro index purpose given
    obtain ⟨row, _, rfl⟩ := Option.map_eq_some_iff.mp given
    exact ⟨State.slug_of_newest newest, rfl⟩
  notes := by
    intro index purpose given attempt
    obtain ⟨row, _, rfl⟩ := Option.map_eq_some_iff.mp given
    exact ⟨rfl, rfl⟩

theorem State.serves_searches
    {searches : List Api.Search}
    {generators : List Random.Generator}
    (newest : state.tables.getLast? = some table)
    (searchCount : searches.length = settings.searchCount)
    (generatorCount : generators.length = settings.searchCount) :
    Serves settings state.tables settings.searchBatch generators (.search state.newest)
      (searchErrand table searches.toArray) where
  batched := rfl
  items := by rw [Task.items, generatorCount]
  width := rfl
  errands := by
    intro index inside
    have within : index < searches.length := by omega
    exact Option.isSome_iff_exists.mp (by simp [searchErrand, within])
  fits := by
    intro index purpose given
    obtain ⟨search, _, rfl⟩ := Option.map_eq_some_iff.mp given
    exact State.slug_of_newest newest
  notes := by
    intro index purpose given attempt
    obtain ⟨search, _, rfl⟩ := Option.map_eq_some_iff.mp given
    exact ⟨rfl, rfl⟩

/-- The single call under way is one that its step makes, and its failure tells
the stage. -/
theorem State.asks
    {ask : Ask}
    (asks : state.asking? = some ask)
    (sited : state.Sited settings) :
    ask.task.isSingle = true ∧ ask.task.Fits state.tables none ask.call ∧
      ∀ error, (ask.failure error).stage? = some ask.task.stage := by
  unfold State.asking? at asks
  unfold State.Sited at sited
  cases position : state.position <;> simp only [position] at asks sited <;> cases asks
  · exact ⟨rfl, trivial, fun _ => rfl⟩
  · exact ⟨rfl, trivial, fun _ => rfl⟩
  · exact ⟨rfl, ⟨State.slug_of_newest sited, rfl⟩, fun _ => rfl⟩

/-- A batch makes its attempts as the tenant does. -/
theorem State.settings_of_job
    {job : Job}
    (works : state.job? settings = some job) :
    job.settings.policy = settings.policy ∧ job.settings.classifier = settings.classifier := by
  unfold State.job? at works
  cases position : state.position <;> simp only [position] at works <;> cases works <;> exact ⟨rfl, rfl⟩

/-- Who waits for an answer is not done. -/
theorem State.isOver_of_asking
    {ask : Ask}
    (asks : state.asking? = some ask) :
    state.isOver = false := by
  unfold State.asking? at asks
  unfold State.isOver
  cases position : state.position <;> simp only [position] at asks ⊢ <;> cases asks

/-- Who runs a batch is not done. -/
theorem State.isOver_of_job
    {job : Job}
    (works : state.job? settings = some job) :
    state.isOver = false := by
  unfold State.job? at works
  unfold State.isOver
  cases position : state.position <;> simp only [position] at works ⊢ <;> cases works

/-- The failure of the batch under way tells the stage. -/
theorem State.stage?_of_job
    {job : Job}
    (works : state.job? settings = some job)
    (failure : Batch.Failure) :
    (job.failure failure).stage? = some job.task.stage := by
  unfold State.job? at works
  cases position : state.position <;> simp only [position] at works <;> cases works <;> rfl

/-- The rows of a table are the next step. -/
theorem enters_insertRows
    (newest : state.tables.getLast? = some table) :
    Enters settings raised state
      (columnTasks state.newest [] ++ settings.tasksFrom state.tables.length)
      (state.insertRows settings table).1 (state.insertRows settings table).2 := by
  have serves : Serves settings state.tables settings.rowBatch
      (drawRows settings.rowCount state.generator).1.2 (.insertRows state.newest)
      (rowErrand table (drawRows settings.rowCount state.generator).1.1.toArray) :=
    State.serves_rows newest length_drawRows_rows length_drawRows_generators
  rw [State.insertRows_eq]
  cases begins : (Batch.State.begin? settings.rowBatch
      (drawRows settings.rowCount state.generator).1.2 : Option Calls) with
  | none =>
      refine .crash _ _ (by simp only [begins]) rfl (Or.inl ?_)
      simpa [Batch.State.begin?] using begins
  | some batch =>
      simp only [begins]
      exact .batch ⟨.insertRows state.newest, settings.rowBatch, _, batch, _⟩ _ _ rfl rfl newest
        rfl begins serves

/-- The searches on a table are the next step. -/
theorem enters_startSearches
    (newest : state.tables.getLast? = some table) :
    Enters settings raised state
      (.search state.newest :: settings.tasksFrom state.tables.length)
      (state.startSearches settings table).1 (state.startSearches settings table).2 := by
  have serves : Serves settings state.tables settings.searchBatch
      (drawSearches settings.searchCount state.generator).1.2 (.search state.newest)
      (searchErrand table (drawSearches settings.searchCount state.generator).1.1.toArray) :=
    State.serves_searches newest length_drawSearches_searches length_drawSearches_generators
  rw [State.startSearches_eq]
  cases begins : (Batch.State.begin? settings.searchBatch
      (drawSearches settings.searchCount state.generator).1.2 : Option Calls) with
  | none =>
      refine .crash _ _ (by simp only [begins]) rfl (Or.inr ?_)
      simpa [Batch.State.begin?] using begins
  | some batch =>
      simp only [begins]
      exact .batch ⟨.search state.newest, settings.searchBatch, _, batch, _⟩ _ _ rfl rfl newest
        rfl begins serves

/-- A stage that begins with a step is entered, or the work is cancelled. -/
theorem enters_enter
    {proceed : State → State × List Effect}
    (task : Task)
    (later : List Task)
    (proceeds : Enters settings raised state (task :: later) (proceed state).1
      (proceed state).2) :
    Enters settings raised state (task :: later) (state.enter raised task.stage proceed).1
      (state.enter raised task.stage proceed).2 := by
  unfold State.enter
  split
  · rename_i isRaised
    exact .refuse task later isRaised
  · exact proceeds

/-- The columns of a table that are left are the next steps, and then its
rows. -/
theorem enters_addColumns
    (newest : state.tables.getLast? = some table)
    (columns : List Api.Column) :
    Enters settings raised state
      (columnTasks state.newest columns ++ settings.tasksFrom state.tables.length)
      (state.addColumns settings raised table columns).1
      (state.addColumns settings raised table columns).2 := by
  cases columns with
  | nil => exact enters_enter (.insertRows state.newest) _ (enters_insertRows newest)
  | cons column later =>
      exact .call ⟨.addColumn state.newest column, .addColumn table.slug column, _⟩ _ rfl rfl
        newest rfl rfl

/-- The creation of a table is the next step. -/
theorem enters_createTable
    (left : state.tables.length < settings.tableCount) :
    Enters settings raised state
      (tableTasks state.tables.length ++ settings.tasksFrom (state.tables.length + 1))
      state.createTable.1 state.createTable.2 := by
  rw [State.createTable_eq]
  generalize Payload.newTable state.tables.length state.generator = drawn
  exact .call ⟨.createTable state.tables.length, .createTable drawn.1, _⟩ _ rfl
    (Settings.tasksFrom_of_lt left) left rfl rfl

/-- The next table, if there is one, is the next step. -/
theorem enters_nextTable
    (settings : Settings)
    (raised : Bool)
    (state : State) :
    Enters settings raised state (settings.tasksFrom state.tables.length)
      (state.nextTable settings raised).1 (state.nextTable settings raised).2 := by
  unfold State.nextTable
  split
  · rename_i enough
    rw [Settings.tasksFrom_of_le enough]
    exact .finish
  · rename_i more
    have left : state.tables.length < settings.tableCount := Nat.lt_of_not_le more
    rw [Settings.tasksFrom_of_lt left]
    exact enters_enter (.createTable state.tables.length) _ (enters_createTable left)

/-- After the answer to a single call the work goes on with the steps after
it. -/
theorem enters_resume
    {ask : Ask}
    (raised : Bool)
    (reply : Api.Reply)
    (asks : state.asking? = some ask)
    (sited : state.Sited settings) :
    ∃ later, state.ahead settings = ask.task :: later ∧
      Enters settings raised (state.learn reply) later (state.resume settings raised reply).1
        (state.resume settings raised reply).2 := by
  unfold State.asking? at asks
  unfold State.Sited at sited
  unfold State.ahead State.learn State.resume
  cases position : state.position with
  | waiting | insertingRows | searching | ended | crashed => simp [position] at asks
  | signingUp =>
      simp only [position, Option.some.injEq] at asks sited ⊢
      subst asks
      have entered := enters_nextTable settings raised state
      rw [sited] at entered
      exact ⟨_, settings.plan_eq, entered⟩
  | creatingTable request =>
      simp only [position, Option.some.injEq] at asks sited ⊢
      subst asks
      refine ⟨columnTasks state.tables.length Payload.columns ++
        settings.tasksFrom (state.tables.length + 1), settings.tasksFrom_of_lt sited, ?_⟩
      generalize learned : state.withTable ⟨request.name, reply.slug⟩ = known
      have newest : known.tables.getLast? = some ⟨request.name, reply.slug⟩ := by
        rw [← learned]
        exact List.getLast?_concat
      have counted : known.tables.length = state.tables.length + 1 := by
        rw [← learned, State.withTable, List.length_append, List.length_singleton]
      have placed : known.newest = state.tables.length := by
        rw [State.newest, counted, Nat.add_sub_cancel]
      have columns : Enters settings raised known
          (columnTasks known.newest Payload.columns ++ settings.tasksFrom known.tables.length) _ _ :=
        enters_addColumns newest Payload.columns
      rw [counted, placed] at columns
      exact enters_enter (.addColumn state.tables.length _) _ columns
  | addingColumn table column later =>
      simp only [position, Option.some.injEq] at asks sited ⊢
      subst asks
      exact ⟨_, rfl, enters_addColumns sited later⟩

/-- After a batch the work goes on with the steps after it. -/
theorem enters_afterBatch
    {job : Job}
    (raised : Bool)
    (works : state.job? settings = some job)
    (sited : state.Sited settings) :
    ∃ later, state.ahead settings = job.task :: later ∧
      Enters settings raised state later (state.afterBatch settings raised).1
        (state.afterBatch settings raised).2 := by
  unfold State.job? at works
  unfold State.Sited at sited
  unfold State.ahead State.afterBatch
  cases position : state.position with
  | waiting | signingUp | creatingTable | addingColumn | ended | crashed =>
      simp [position] at works
  | insertingRows table rows batch =>
      simp only [position, Option.some.injEq] at works sited ⊢
      subst works
      exact ⟨_, rfl, enters_enter (.search state.newest) _ (enters_startSearches sited)⟩
  | searching table searches batch =>
      simp only [position, Option.some.injEq] at works sited ⊢
      subst works
      exact ⟨_, rfl, enters_nextTable settings raised state⟩

/-! ## Who a tenant is -/

theorem State.index_enter
    {proceed : State → State × List Effect}
    (stage : Stage)
    (keeps : (proceed state).1.index = state.index) :
    (state.enter raised stage proceed).1.index = state.index := by
  unfold State.enter
  split
  · rfl
  · exact keeps

theorem State.index_nextTable
    (settings : Settings)
    (raised : Bool)
    (state : State) :
    (state.nextTable settings raised).1.index = state.index := by
  unfold State.nextTable
  split
  · rfl
  · exact State.index_enter .createTable rfl

theorem State.index_addColumns
    (settings : Settings)
    (raised : Bool)
    (table : Table)
    (state : State)
    (columns : List Api.Column) :
    (state.addColumns settings raised table columns).1.index = state.index := by
  cases columns with
  | nil => exact State.index_enter .addRow rfl
  | cons column later => rfl

theorem State.index_resume
    (settings : Settings)
    (raised : Bool)
    (reply : Api.Reply)
    (state : State) :
    (state.resume settings raised reply).1.index = state.index := by
  unfold State.resume
  cases position : state.position with
  | waiting | insertingRows | searching | ended | crashed => rfl
  | signingUp => exact state.index_nextTable settings raised
  | creatingTable request =>
      exact State.index_enter .addColumn (State.index_addColumns ..)
  | addingColumn table column later => exact State.index_addColumns ..

theorem State.index_afterBatch
    (settings : Settings)
    (raised : Bool)
    (state : State) :
    (state.afterBatch settings raised).1.index = state.index := by
  unfold State.afterBatch
  cases position : state.position with
  | waiting | signingUp | creatingTable | addingColumn | ended | crashed => rfl
  | insertingRows => exact State.index_enter .search rfl
  | searching => exact state.index_nextTable settings raised

@[simp] theorem State.index_withBatch
    (state : State)
    (batch : Calls) :
    (state.withBatch batch).index = state.index := by
  unfold withBatch
  cases position : state.position <;> rfl

/-- A tenant keeps its place among the tenants. -/
theorem Moves.index_eq
    (moves : Moves settings raised state event next effects) :
    next.index = state.index := by
  cases moves with
  | refuse | connect | unconnected | crashUnconnected | fail | crash | spoiled => rfl
  | answer => exact State.index_resume ..
  | act | turn => exact State.index_withBatch ..
  | gathered => exact State.index_afterBatch ..

/-- No event happens to a tenant whose work is over. -/
theorem Moves.isOver_eq_false
    (moves : Moves settings raised state event next effects) :
    state.isOver = false := by
  cases moves with
  | refuse _ waits | connect waits | unconnected _ waits | crashUnconnected _ waits =>
      simp [State.isOver, waits]
  | answer _ _ _ asks | fail _ _ _ asks | crash _ _ _ asks => exact State.isOver_of_asking asks
  | act _ _ _ _ works | turn _ _ _ _ works | gathered _ _ works | spoiled _ _ works =>
      exact State.isOver_of_job works

end Tenant
end TenantLoad
