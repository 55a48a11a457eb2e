import TenantLoad.Api.Call
import TenantLoad.Batch.Turn
import TenantLoad.Config.Settings
import TenantLoad.Metrics.Entry
import TenantLoad.Payload.Generate
import TenantLoad.Tenant.Outcome
import TenantLoad.Tenant.Task

/-!
# A tenant as a transition system

A tenant signs up and then takes one table after the other through its
creation, its columns, its rows and its searches.  Signup, tables and columns
are single calls, one at a time; rows and searches are batches.  Before a
stage begins the shutdown signal is looked at, and the first step that does
not complete ends the work.

`step` is the effect of one event.  Which event comes next, how every call
ends and how long it takes is left open, so every service, schedule and
moment of a shutdown is a sequence of events.  A batch moves by single acts,
which are the schedules on any number of threads, or by whole turns.
-/

namespace TenantLoad
namespace Tenant

/-- How a tenant works. -/
structure Settings where
  workload : Config.Workload
  policy : Retry.Policy
  classifier : Retry.Classifier

namespace Settings

/-- How the rows of a table are inserted: all of them. -/
def rowBatch (settings : Settings) : Batch.Settings :=
  { concurrency := settings.workload.rowConcurrency.toNat
    mode := .failSoft
    policy := settings.policy
    classifier := settings.classifier
    heedsShutdown := true }

/-- How the searches of a table are made: until one fails. -/
def searchBatch (settings : Settings) : Batch.Settings :=
  { concurrency := settings.workload.searchConcurrency.toNat
    mode := .failFast
    policy := settings.policy
    classifier := settings.classifier
    heedsShutdown := true }

end Settings

/-- A batch of calls under way. -/
abbrev Calls := Batch.State Api.Reply Api.Error

/-- Where a tenant stands. -/
inductive Position where
  /-- Nothing has been done. -/
  | waiting
  | signingUp
  | creatingTable (request : Api.NewTable)
  | addingColumn (table : Table) (column : Api.Column) (later : List Api.Column)
  | insertingRows (table : Table) (rows : Array Json) (batch : Calls)
  | searching (table : Table) (searches : Array Api.Search) (batch : Calls)
  /-- The work has ended, early if there is a failure. -/
  | ended (failure : Option Failure)
  /-- A call has crashed, or a batch before it began, and the tenant with it. -/
  | crashed

/-- The state of a tenant. -/
structure State where
  index : Nat
  identity : Api.Signup
  /-- The generator of the payloads still to be drawn. -/
  generator : Random.Generator
  /-- The tables created so far, in order. -/
  tables : List Table
  position : Position

/-- What can happen to a tenant. -/
inductive Event where
  /-- The tenant begins, and its connection opens or not. -/
  | begin (connection : Retry.Attempt Unit Api.Error)
  /-- The single call under way ends after a time. -/
  | answered (duration : Metrics.Millis) (attempt : Api.Attempt)
  /-- An act of the batch under way, after a time if it is the end of an
  attempt. -/
  | act (duration : Metrics.Millis) (act : Batch.Act Api.Reply Api.Error)
  /-- A turn of the batch under way, after a time if it is the end of an
  attempt. -/
  | batch (duration : Metrics.Millis) (event : Batch.Event Api.Reply Api.Error)
  /-- The results of a batch that has ended are gathered. -/
  | gather

/-- What shows of a tenant to the world around it. -/
inductive Effect where
  /-- A connection is asked for and opens or not. -/
  | connect (connection : Retry.Attempt Unit Api.Error)
  /-- A call begins. -/
  | call (origin : Origin) (call : Api.Call)
  /-- A call ends. -/
  | ended (origin : Origin) (call : Api.Call) (attempt : Api.Attempt)
  /-- The attempt at a call is recorded. -/
  | record (origin : Origin) (entry : Metrics.Entry)

/-- The state before a tenant has done anything.  Its identity is the first
draw of its generator. -/
def initial (index : Nat) (generator : Random.Generator) : State :=
  let (identity, generator) := Payload.identity index generator
  { index, identity, generator, tables := [], position := .waiting }

/-- The entry of an attempt; one that crashed leaves none. -/
def measuredEntry (duration : Metrics.Millis) (extra : List (String × Json)) :
    Api.Attempt → Option Metrics.Entry
  | .returned reply => some ⟨duration, some reply.status, true, extra⟩
  | .failed error =>
    some ((⟨duration, error.status?, false, extra⟩ : Metrics.Entry).withExtra "error"
      (.text error.kind))
  | .crashed _ => none

/-- The effects of the end of a call: its attempt is recorded. -/
def returning (origin : Origin) (call : Api.Call) (duration : Metrics.Millis)
    (extra : List (String × Json)) (attempt : Api.Attempt) : List Effect :=
  .ended origin call attempt ::
    ((measuredEntry duration extra attempt).map (Effect.record origin)).toList

/-- What is noted of the attempt of the given number. -/
def attemptNote (attempt : Nat) : List (String × Json) := [("attempt", .natural attempt)]

/-- What is noted of an attempt at a search. -/
def searchNote (attempt : Nat) (search : Api.Search) : List (String × Json) :=
  attemptNote attempt ++ [("pageSize", .natural search.pageSize)]

/-- The call that inserts a row of a table. -/
def rowCall (table : Table) (row : Nat) (payload : Json) : Api.Call :=
  .addRow table.slug (Api.Call.rowKey table.slug row) payload

/-- What an item of a batch is for: its call, and what is noted of its attempt
of the given number. -/
structure Errand where
  call : Api.Call
  note : Nat → List (String × Json)

/-- The errands of the rows of a table. -/
def rowErrand (table : Table) (rows : Array Json) (index : Nat) : Option Errand :=
  rows[index]?.map fun row => ⟨rowCall table index row, attemptNote⟩

/-- The errands of the searches of a table. -/
def searchErrand (table : Table) (searches : Array Api.Search) (index : Nat) : Option Errand :=
  searches[index]?.map fun search =>
    ⟨.search table.slug search, fun attempt => searchNote attempt search⟩

/-- The effects of an act of a batch that runs errands: an attempt that begins
is a call, and one that ends is recorded. -/
def itemEffects (task : Task) (errand : Nat → Option Errand) (duration : Metrics.Millis)
    (batch : Calls) : Batch.Act Api.Reply Api.Error → List Effect
  | .start index =>
    match errand index with
    | some errand => [.call ⟨task, some index, 1⟩ errand.call]
    | none => []
  | .resume index =>
    match errand index, batch.cells[index]? with
    | some errand, some (.resting attempt _ _) => [.call ⟨task, some index, attempt⟩ errand.call]
    | _, _ => []
  | .finish index result =>
    match errand index, batch.cells[index]? with
    | some errand, some (.attempting attempt _) =>
      returning ⟨task, some index, attempt⟩ errand.call duration (errand.note attempt) result
    | _, _ => []
  | _ => []

namespace State

/-- The state at another position. -/
def moveTo (state : State) (position : Position) : State := { state with position }

/-- The state after the work has ended for a reason. -/
def stopFor (state : State) (failure : Failure) : State := state.moveTo (.ended (some failure))

/-- Enter a stage, unless shutdown has been requested before it. -/
def enter (raised : Bool) (stage : Stage) (state : State)
    (proceed : State → State × List Effect) : State × List Effect :=
  if raised then (state.stopFor (.cancelled stage), []) else proceed state

/-- The index of the newest table. -/
def newest (state : State) : Nat := state.tables.length - 1

/-- Begin to create the next table. -/
def createTable (state : State) : State × List Effect :=
  let (request, generator) := Payload.newTable state.tables.length state.generator
  ({ state with generator, position := .creatingTable request },
    [.call ⟨.createTable state.tables.length, none, 1⟩ (.createTable request)])

/-- Begin the next table, or end the work when there are enough. -/
def nextTable (settings : Settings) (raised : Bool) (state : State) : State × List Effect :=
  if settings.workload.tablesPerTenant.toNat ≤ state.tables.length then
    (state.moveTo (.ended none), [])
  else
    state.enter raised .createTable createTable

/-- Draw the rows of a table and begin to insert them. -/
def insertRows (settings : Settings) (table : Table) (state : State) : State × List Effect :=
  let count := settings.workload.rowsPerTable.toNat
  let (rows, generator) := Payload.rows (List.range count) state.generator
  let (generators, generator) := Batch.itemGenerators count generator
  let position :=
    match Batch.State.begin? settings.rowBatch generators with
    | some batch => .insertingRows table rows.toArray batch
    | none => .crashed
  ({ state with generator, position }, [])

/-- Draw the searches of a table and begin to make them. -/
def startSearches (settings : Settings) (table : Table) (state : State) : State × List Effect :=
  let count := settings.workload.searchRequests.toNat
  let (searches, generator) := Payload.searches count state.generator
  let (generators, generator) := Batch.itemGenerators count generator
  let position :=
    match Batch.State.begin? settings.searchBatch generators with
    | some batch => .searching table searches.toArray batch
    | none => .crashed
  ({ state with generator, position }, [])

/-- Add the given columns to a table, one after the other, then go on to its
rows. -/
def addColumns (settings : Settings) (raised : Bool) (table : Table) (state : State) :
    List Api.Column → State × List Effect
  | column :: later =>
    (state.moveTo (.addingColumn table column later),
      [.call ⟨.addColumn state.newest column, none, 1⟩ (.addColumn table.slug column)])
  | [] => state.enter raised .addRow (insertRows settings table)

/-- Begin the work: sign up over the connection. -/
def signUp (connection : Retry.Attempt Unit Api.Error) (state : State) : State × List Effect :=
  match connection with
  | .returned _ =>
    (state.moveTo .signingUp,
      [.connect connection, .call ⟨.signUp, none, 1⟩ (.signup state.identity)])
  | .failed source => (state.stopFor (.connect state.index source), [.connect connection])
  | .crashed _ => (state.moveTo .crashed, [.connect connection])

/-- Record how the single call of a step ended and go on accordingly. -/
def afterCall (state : State) (task : Task) (call : Api.Call) (duration : Metrics.Millis)
    (attempt : Api.Attempt) (failure : Api.Error → Failure)
    (proceed : Api.Reply → State × List Effect) : State × List Effect :=
  let recorded := returning ⟨task, none, 1⟩ call duration [] attempt
  match attempt with
  | .returned reply =>
    let (state, effects) := proceed reply
    (state, recorded ++ effects)
  | .failed source => (state.stopFor (failure source), recorded)
  | .crashed _ => (state.moveTo .crashed, recorded)

/-- The state after a new table has been created. -/
def withTable (state : State) (table : Table) : State :=
  { state with tables := state.tables ++ [table] }

/-- The effect of the end of the single call under way. -/
def answered (settings : Settings) (raised : Bool) (duration : Metrics.Millis)
    (attempt : Api.Attempt) (state : State) : Option (State × List Effect) :=
  match state.position with
  | .signingUp =>
    some (state.afterCall .signUp (.signup state.identity) duration attempt
      (.signup state.identity.email) fun _ => state.nextTable settings raised)
  | .creatingTable request =>
    some (state.afterCall (.createTable state.tables.length) (.createTable request) duration
      attempt (.createTable request.name) fun reply =>
        let table : Table := ⟨request.name, reply.slug⟩
        (state.withTable table).enter raised .addColumn fun state =>
          state.addColumns settings raised table Payload.columns)
  | .addingColumn table column later =>
    some (state.afterCall (.addColumn state.newest column) (.addColumn table.slug column) duration
      attempt (.addColumn table.slug column.name) fun _ =>
        state.addColumns settings raised table later)
  | _ => none

/-- The effect of a move of the batch under way, which shows as the given
act. -/
def inBatch (settings : Settings) (move : Batch.Settings → Calls → Option Calls)
    (duration : Metrics.Millis) (act : Batch.Act Api.Reply Api.Error) (state : State) :
    Option (State × List Effect) :=
  match state.position with
  | .insertingRows table rows batch =>
    (move settings.rowBatch batch).map fun next =>
      (state.moveTo (.insertingRows table rows next),
        itemEffects (.insertRows state.newest) (rowErrand table rows) duration batch act)
  | .searching table searches batch =>
    (move settings.searchBatch batch).map fun next =>
      (state.moveTo (.searching table searches next),
        itemEffects (.search state.newest) (searchErrand table searches) duration batch act)
  | _ => none

/-- The effect of gathering the results of a batch that has ended. -/
def gather (settings : Settings) (raised : Bool) (state : State) :
    Option (State × List Effect) :=
  match state.position with
  | .insertingRows table _ batch =>
    let batch := batch.gatherAll
    if batch.isComplete then
      match (batch.report settings.rowBatch).result with
      | .error source => some (state.stopFor (.insertRows table.slug source), [])
      | .ok _ => some (state.enter raised .search (startSearches settings table))
    else
      none
  | .searching table _ batch =>
    let batch := batch.gatherAll
    if batch.isComplete then
      match (batch.report settings.searchBatch).result with
      | .error source => some (state.stopFor (.search table.slug source), [])
      | .ok _ => some (state.nextTable settings raised)
    else
      none
  | _ => none

/-- The effect of an event on a tenant; `raised` tells whether the shutdown
signal is raised. -/
def step (settings : Settings) (raised : Bool) (state : State) :
    Event → Option (State × List Effect)
  | .begin connection =>
    match state.position with
    | .waiting => some (state.enter raised .signup (signUp connection))
    | _ => none
  | .answered duration attempt => state.answered settings raised duration attempt
  | .act duration act =>
    state.inBatch settings (fun settings batch => batch.act settings raised act) duration act
  | .batch duration event =>
    state.inBatch settings (fun settings batch => batch.step settings raised event) duration
      event.opening
  | .gather => state.gather settings raised

/-- Whether the tenant's work is over. -/
def isOver (state : State) : Bool :=
  match state.position with
  | .ended _ | .crashed => true
  | _ => false

/-- The outcome of a tenant whose work is over. -/
def outcome? (state : State) : Option Outcome :=
  let outcome : Outcome :=
    { tenant := state.index, orgSlug := state.identity.orgSlug, tables := state.tables }
  match state.position with
  | .ended none => some outcome
  | .ended (some failure) => some (outcome.fail failure)
  | .crashed => some (.crashed state.index Outcome.crashMessage)
  | _ => none

end State

/-- What happens around a tenant: an event of the tenant, or the shutdown
signal is raised. -/
inductive Happening where
  | event (event : Event)
  | raise

/-- A tenant beside the shutdown signal. -/
structure World where
  raised : Bool
  state : State

/-- The world after something has happened, and the effects of it. -/
def World.step (settings : Settings) (world : World) : Happening → Option (World × List Effect)
  | .raise => some ({ world with raised := true }, [])
  | .event event =>
    (world.state.step settings world.raised event).map fun (state, effects) =>
      ({ world with state }, effects)

/-- The world after a sequence of happenings, and the effects of all of them
in order. -/
def World.run (settings : Settings) (world : World) :
    List Happening → Option (World × List Effect)
  | [] => some (world, [])
  | happening :: rest => do
    let (world, effects) ← world.step settings happening
    let (world, later) ← world.run settings rest
    pure (world, effects ++ later)

end Tenant
end TenantLoad
