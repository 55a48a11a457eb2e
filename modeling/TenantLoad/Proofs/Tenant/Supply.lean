import TenantLoad.Proofs.Tenant.Runs

/-!
# What a tenant draws

The payloads of a tenant and the generators of its items follow from its first
generator and from how many rows and searches a table has.  How calls have
ended, when they did and how often they were attempted does not come in, for
the tenant draws before it calls and the items of a batch draw from generators
of their own.
-/

namespace TenantLoad
namespace Tenant

open TenantLoad.Random

/-- What the draws of a tenant follow from. -/
structure Supply where
  tenant : Nat
  generator : Generator
  rowCount : Nat
  searchCount : Nat

namespace Supply

variable (supply : Supply)

/-- The signup, and the generator after it. -/
def signup : Api.Signup × Generator := Payload.identity supply.tenant supply.generator

/-- The generator before the draws of a table. -/
def start : Nat → Generator
  | 0 => supply.signup.2
  | table + 1 =>
    let request := Payload.newTable table (start table)
    let rows := drawRows supply.rowCount request.2
    (drawSearches supply.searchCount rows.2).2

/-- The request for a table, and the generator after it. -/
def newTable (table : Nat) : Api.NewTable × Generator :=
  Payload.newTable table (supply.start table)

/-- The rows of a table with the generators of their items, and the generator
after them. -/
def rows (table : Nat) : (List Json × List Generator) × Generator :=
  drawRows supply.rowCount (supply.newTable table).2

/-- The searches of a table with the generators of their items, and the
generator after them. -/
def searches (table : Nat) : (List Api.Search × List Generator) × Generator :=
  drawSearches supply.searchCount (supply.rows table).2

/-- The next table is drawn after the searches. -/
theorem start_succ (table : Nat) : supply.start (table + 1) = (supply.searches table).2 := rfl

/-- The body that the calls of a step send, in a batch those of an item. -/
def body? : Task → Option Nat → Option Json
  | .signUp, _ => some supply.signup.1.toJson
  | .createTable table, _ => some (supply.newTable table).1.toJson
  | .addColumn _ column, _ => some column.toJson
  | .insertRows table, some row => (supply.rows table).1.1[row]?
  | .search table, some search => (supply.searches table).1.1[search]?.map Api.Search.toJson
  | .insertRows _, none | .search _, none => none

end Supply

/-- A batch has got where it stands from its beginning with the given
generators. -/
def Stems (settings : Batch.Settings) (generators : List Generator) (raised : Bool)
    (batch : Calls) : Prop :=
  ∃ before start happenings, Batch.State.begin? settings generators = some start ∧
    Batch.World.run settings ⟨before, start⟩ happenings = some ⟨raised, batch⟩

/-- What a tenant at work has drawn for its step is what its supply has for
it. -/
def Supplied (settings : Settings) (supply : Supply) (raised : Bool) (state : State) : Prop :=
  match state.position with
  | .waiting | .signingUp => state.tables = [] ∧ state.generator = supply.start 0
  | .creatingTable request =>
    request = (supply.newTable state.tables.length).1 ∧
      state.generator = (supply.newTable state.tables.length).2
  | .addingColumn .. =>
    state.tables.length = state.newest + 1 ∧ state.generator = (supply.newTable state.newest).2
  | .insertingRows _ rows batch =>
    state.tables.length = state.newest + 1 ∧ state.generator = (supply.rows state.newest).2 ∧
      rows = (supply.rows state.newest).1.1.toArray ∧
        Stems settings.rowBatch (supply.rows state.newest).1.2 raised batch
  | .searching _ searches batch =>
    state.tables.length = state.newest + 1 ∧ state.generator = (supply.searches state.newest).2 ∧
      searches = (supply.searches state.newest).1.1.toArray ∧
        Stems settings.searchBatch (supply.searches state.newest).1.2 raised batch
  | .ended _ | .crashed => True

/-- Every call that begins sends the body that the supply has for it. -/
def Follows (supply : Supply) (effects : List Effect) : Prop :=
  ∀ origin call, .call origin call ∈ effects →
    supply.body? origin.task origin.item = some call.body

/-- A state and what shows before it keep to a supply. -/
structure Keeps (settings : Settings) (supply : Supply) (raised : Bool) (state : State)
    (effects : List Effect) : Prop where
  identity : state.identity = supply.signup.1
  supplied : Supplied settings supply raised state
  follows : Follows supply effects

variable {settings : Settings} {supply : Supply} {raised : Bool} {state next : State}
  {effects new : List Effect} {table : Table}

/-! ## Batches -/

namespace Stems

variable {batchSettings : Batch.Settings} {generators : List Generator} {batch after : Calls}

theorem begin
    (raised : Bool)
    (begins : Batch.State.begin? batchSettings generators = some batch) :
    Stems batchSettings generators raised batch :=
  ⟨raised, batch, [], begins, rfl⟩

theorem act
    {act : CallAct}
    (stems : Stems batchSettings generators raised batch)
    (enabled : batch.act batchSettings raised act = some after) :
    Stems batchSettings generators raised after := by
  obtain ⟨before, start, happenings, begins, runs⟩ := stems
  refine ⟨before, start, happenings ++ [.act act], begins, ?_⟩
  refine Batch.World.run_append_eq_some_iff.mpr ⟨_, runs, ?_⟩
  rw [Batch.World.run_singleton, Batch.World.step, enabled, Option.map_some]

theorem raise
    (stems : Stems batchSettings generators raised batch) :
    Stems batchSettings generators true batch := by
  obtain ⟨before, start, happenings, begins, runs⟩ := stems
  exact ⟨before, start, happenings ++ [.raise], begins,
    Batch.World.run_append_eq_some_iff.mpr ⟨_, runs, rfl⟩⟩

end Stems

/-! ## Calls -/

namespace Follows

theorem append
    (follows : Follows supply effects)
    (later : Follows supply new) :
    Follows supply (effects ++ new) := by
  intro origin call member
  rcases List.mem_append.mp member with earlier | now
  · exact follows origin call earlier
  · exact later origin call now

/-- Nothing is called. -/
theorem of_uncalled
    (uncalled : ∀ effect ∈ effects, effect.call? = none) :
    Follows supply effects := by
  intro origin call member
  cases uncalled _ member

theorem single
    {origin : Origin}
    {call : Api.Call}
    (body : supply.body? origin.task origin.item = some call.body) :
    Follows supply [.call origin call] := by
  intro other asked member
  cases List.mem_singleton.mp member
  exact body

/-- The end of a call begins none. -/
theorem returning
    (supply : Supply)
    (origin : Origin)
    (call : Api.Call)
    (duration : Metrics.Millis)
    (extra : List (String × Json))
    (attempt : Api.Attempt) :
    Follows supply (Tenant.returning origin call duration extra attempt) := by
  refine of_uncalled ?_
  intro effect member
  rcases List.mem_cons.mp member with rfl | recorded
  · rfl
  · obtain ⟨entry, _, rfl⟩ := List.mem_map.mp (Option.toList_map .. ▸ recorded)
    rfl

/-- A batch sends what its errands have. -/
theorem itemEffects
    {task : Task}
    {errand : Nat → Option Errand}
    (bodies : ∀ index purpose, errand index = some purpose →
      supply.body? task (some index) = some purpose.call.body)
    (duration : Metrics.Millis)
    (batch : Calls)
    (act : CallAct) :
    Follows supply (Tenant.itemEffects task errand duration batch act) := by
  have nothing : Follows supply [] := of_uncalled (by simp)
  cases act with
  | start index =>
      simp only [Tenant.itemEffects]
      split
      · rename_i purpose given
        exact single (bodies index purpose given)
      · exact nothing
  | resume index =>
      simp only [Tenant.itemEffects]
      split
      · rename_i purpose attempt delay generator given found
        exact single (bodies index purpose given)
      · exact nothing
  | finish index result =>
      simp only [Tenant.itemEffects]
      split
      · exact Follows.returning supply _ _ _ _ _
      · exact nothing
  | _ => exact nothing

end Follows

/-! ## The next step -/

/-- Who has stopped has nothing more to draw. -/
theorem Keeps.stop
    (failure : Failure)
    (identity : state.identity = supply.signup.1) :
    Keeps settings supply raised (state.stopFor failure) [] where
  identity := identity
  supplied := trivial
  follows := .of_uncalled (by simp)

theorem Keeps.enter
    {stage : Stage}
    {proceed : State → State × List Effect}
    (identity : state.identity = supply.signup.1)
    (proceeds : Keeps settings supply raised (proceed state).1 (proceed state).2) :
    Keeps settings supply raised (state.enter raised stage proceed).1
      (state.enter raised stage proceed).2 := by
  unfold State.enter
  split
  · exact .stop _ identity
  · exact proceeds

theorem keeps_createTable
    (settings : Settings)
    (raised : Bool)
    (identity : state.identity = supply.signup.1)
    (generator : state.generator = supply.start state.tables.length) :
    Keeps settings supply raised state.createTable.1 state.createTable.2 := by
  have drawn : Payload.newTable state.tables.length (supply.start state.tables.length) =
      supply.newTable state.tables.length := rfl
  rw [State.createTable_eq, generator, drawn]
  refine ⟨identity, by simp [Supplied], .single ?_⟩
  simp only [Supply.body?, Api.Call.body]

theorem keeps_nextTable
    (settings : Settings)
    (raised : Bool)
    (identity : state.identity = supply.signup.1)
    (generator : state.generator = supply.start state.tables.length) :
    Keeps settings supply raised (state.nextTable settings raised).1
      (state.nextTable settings raised).2 := by
  unfold State.nextTable
  split
  · exact ⟨identity, trivial, .of_uncalled (by simp)⟩
  · exact .enter identity (keeps_createTable settings raised identity generator)

section Batches

variable (identity : state.identity = supply.signup.1)
  (count : state.tables.length = state.newest + 1)
include identity count

theorem keeps_insertRows
    (raised : Bool)
    (table : Table)
    (rowCount : settings.rowCount = supply.rowCount)
    (generator : state.generator = (supply.newTable state.newest).2) :
    Keeps settings supply raised (state.insertRows settings table).1
      (state.insertRows settings table).2 := by
  have drawn : drawRows supply.rowCount (supply.newTable state.newest).2 =
      supply.rows state.newest := rfl
  rw [State.insertRows_eq, rowCount, generator, drawn]
  refine ⟨identity, ?_, .of_uncalled (by simp)⟩
  cases begins : (Batch.State.begin? settings.rowBatch
      (supply.rows state.newest).1.2 : Option Calls) with
  | none => simp [Supplied, begins]
  | some batch =>
      simp only [Supplied, begins]
      exact ⟨count, rfl, rfl, .begin raised begins⟩

theorem keeps_startSearches
    (raised : Bool)
    (table : Table)
    (searchCount : settings.searchCount = supply.searchCount)
    (generator : state.generator = (supply.rows state.newest).2) :
    Keeps settings supply raised (state.startSearches settings table).1
      (state.startSearches settings table).2 := by
  have drawn : drawSearches supply.searchCount (supply.rows state.newest).2 =
      supply.searches state.newest := rfl
  rw [State.startSearches_eq, searchCount, generator, drawn]
  refine ⟨identity, ?_, .of_uncalled (by simp)⟩
  cases begins : (Batch.State.begin? settings.searchBatch
      (supply.searches state.newest).1.2 : Option Calls) with
  | none => simp [Supplied, begins]
  | some batch =>
      simp only [Supplied, begins]
      exact ⟨count, rfl, rfl, .begin raised begins⟩

theorem keeps_addColumns
    (raised : Bool)
    (table : Table)
    (rowCount : settings.rowCount = supply.rowCount)
    (generator : state.generator = (supply.newTable state.newest).2)
    (columns : List Api.Column) :
    Keeps settings supply raised (state.addColumns settings raised table columns).1
      (state.addColumns settings raised table columns).2 := by
  cases columns with
  | nil => exact .enter identity (keeps_insertRows identity count raised table rowCount generator)
  | cons column later => exact ⟨identity, ⟨count, generator⟩, .single rfl⟩

end Batches

/-! ## One event -/

section Step

variable (rowCount : settings.rowCount = supply.rowCount)
  (searchCount : settings.searchCount = supply.searchCount)
  (identity : state.identity = supply.signup.1)
  (supplied : Supplied settings supply raised state)
include identity supplied

include rowCount in
theorem keeps_resume
    {ask : Ask}
    (asks : state.asking? = some ask)
    (reply : Api.Reply) :
    Keeps settings supply raised (state.resume settings raised reply).1
      (state.resume settings raised reply).2 := by
  unfold State.asking? at asks
  unfold Supplied at supplied
  unfold State.resume
  cases position : state.position with
  | waiting | insertingRows | searching | ended | crashed => simp [position] at asks
  | signingUp =>
      simp only [position] at supplied ⊢
      obtain ⟨unmade, generator⟩ := supplied
      refine keeps_nextTable settings raised identity ?_
      rw [unmade]
      exact generator
  | creatingTable request =>
      simp only [position] at supplied ⊢
      obtain ⟨_, generator⟩ := supplied
      generalize learned : state.withTable ⟨request.name, reply.slug⟩ = known
      have counted : known.tables.length = state.tables.length + 1 := by
        rw [← learned, State.withTable, List.length_append, List.length_singleton]
      have placed : known.newest = state.tables.length := by
        rw [State.newest, counted, Nat.add_sub_cancel]
      have same : known.identity = supply.signup.1 := by
        rw [← learned]
        exact identity
      refine .enter same (keeps_addColumns same (by rw [counted, placed]) raised _ rowCount ?_ _)
      rw [placed, ← learned]
      exact generator
  | addingColumn table column later =>
      simp only [position] at supplied ⊢
      exact keeps_addColumns identity supplied.1 raised table rowCount supplied.2 later

include searchCount in
theorem keeps_afterBatch
    {job : Job}
    (works : state.job? settings = some job) :
    Keeps settings supply raised (state.afterBatch settings raised).1
      (state.afterBatch settings raised).2 := by
  unfold State.job? at works
  unfold Supplied at supplied
  unfold State.afterBatch
  cases position : state.position with
  | waiting | signingUp | creatingTable | addingColumn | ended | crashed =>
      simp [position] at works
  | insertingRows table rows batch =>
      simp only [position] at supplied ⊢
      obtain ⟨count, generator, _⟩ := supplied
      exact .enter identity
        (keeps_startSearches identity count raised table searchCount generator)
  | searching table searches batch =>
      simp only [position] at supplied ⊢
      obtain ⟨count, generator, _⟩ := supplied
      refine keeps_nextTable settings raised identity ?_
      rw [count, Supply.start_succ]
      exact generator

/-- An act of a batch draws nothing and sends what was drawn. -/
theorem keeps_withBatch
    {job : Job}
    {act : CallAct}
    {after : Calls}
    (works : state.job? settings = some job)
    (enabled : job.batch.act job.settings raised act = some after)
    (duration : Metrics.Millis) :
    Keeps settings supply raised (state.withBatch after)
      (itemEffects job.task job.errand duration job.batch act) := by
  unfold State.job? at works
  unfold Supplied at supplied
  unfold State.withBatch
  cases position : state.position with
  | waiting | signingUp | creatingTable | addingColumn | ended | crashed =>
      simp [position] at works
  | insertingRows table rows batch =>
      simp only [position, Option.some.injEq] at works supplied ⊢
      subst works
      obtain ⟨count, generator, rfl, stems⟩ := supplied
      refine ⟨identity, ⟨count, generator, rfl, stems.act enabled⟩, .itemEffects ?_ _ _ _⟩
      intro index purpose given
      obtain ⟨row, found, rfl⟩ := Option.map_eq_some_iff.mp given
      rw [List.getElem?_toArray] at found
      exact found
  | searching table searches batch =>
      simp only [position, Option.some.injEq] at works supplied ⊢
      subst works
      obtain ⟨count, generator, rfl, stems⟩ := supplied
      refine ⟨identity, ⟨count, generator, rfl, stems.act enabled⟩, .itemEffects ?_ _ _ _⟩
      intro index purpose given
      obtain ⟨search, found, rfl⟩ := Option.map_eq_some_iff.mp given
      rw [List.getElem?_toArray] at found
      exact congrArg (Option.map Api.Search.toJson) found

end Step

theorem Keeps.append
    (follows : Follows supply effects)
    (keeps : Keeps settings supply raised next new) :
    Keeps settings supply raised next (effects ++ new) :=
  { keeps with follows := follows.append keeps.follows }

/-- One event keeps a tenant to its supply. -/
theorem Keeps.step
    {event : Event}
    (rowCount : settings.rowCount = supply.rowCount)
    (searchCount : settings.searchCount = supply.searchCount)
    (keeps : Keeps settings supply raised state effects)
    (moves : Moves settings raised state event next new)
    (isAct : event.isTurn = false) :
    Keeps settings supply raised next (effects ++ new) := by
  obtain ⟨identity, supplied, follows⟩ := keeps
  refine .append follows ?_
  cases moves with
  | refuse | spoiled => exact .stop _ identity
  | connect waiting =>
      have connected : Follows supply [.connect (.returned ())] :=
        .of_uncalled (by simp [Effect.call?])
      refine ⟨identity, ?_, connected.append (.single ?_)⟩
      · unfold Supplied at supplied
        rw [waiting] at supplied
        exact supplied
      · simp only [Supply.body?, Api.Call.body, identity]
  | unconnected | crashUnconnected =>
      exact ⟨identity, trivial, .of_uncalled (by simp [Effect.call?])⟩
  | answer ask duration reply asks =>
      exact .append (.returning supply _ _ _ _ _)
        (keeps_resume rowCount identity supplied asks reply)
  | fail | crash => exact ⟨identity, trivial, .returning supply _ _ _ _ _⟩
  | act job duration act after works enabled =>
      exact keeps_withBatch identity supplied works enabled duration
  | turn => cases isAct
  | gathered job values works => exact keeps_afterBatch searchCount identity supplied works

/-- The signal leaves a tenant to its supply. -/
theorem Supplied.raise
    (supplied : Supplied settings supply raised state) :
    Supplied settings supply true state := by
  unfold Supplied at supplied ⊢
  cases position : state.position with
  | insertingRows | searching =>
      simp only [position] at supplied ⊢
      obtain ⟨count, generator, drawn, stems⟩ := supplied
      exact ⟨count, generator, drawn, stems.raise⟩
  | waiting | signingUp | creatingTable | addingColumn =>
      simp only [position] at supplied ⊢
      exact supplied
  | ended | crashed => trivial

/-- A tenant that has done nothing has drawn its signup. -/
theorem Keeps.initial
    (settings : Settings)
    (supply : Supply)
    (raised : Bool) :
    Keeps settings supply raised (Tenant.initial supply.tenant supply.generator) [] := by
  have drawn : Payload.identity supply.tenant supply.generator = supply.signup := rfl
  rw [initial_eq, drawn]
  exact ⟨by simp, by simp [Supplied, Supply.start], .of_uncalled (by simp)⟩

/-- Every run keeps a tenant to the supply of its index, its first generator and
its settings. -/
theorem World.keeps_of_run
    (supply : Supply)
    {happenings : List Happening}
    {final : World}
    (rowCount : settings.rowCount = supply.rowCount)
    (searchCount : settings.searchCount = supply.searchCount)
    (runs : World.run settings ⟨raised, Tenant.initial supply.tenant supply.generator⟩ happenings =
      some (final, effects)) :
    Keeps settings supply final.raised final.state effects := by
  refine run_induction
    (motive := fun world effects => Keeps settings supply world.raised world.state effects)
    ?_ ?_ ?_ runs
  · intro raised state effects event next new soFar moves isAct
    exact soFar.step rowCount searchCount moves isAct
  · exact .initial settings supply raised
  · intro current effects soFar
    exact { soFar with supplied := soFar.supplied.raise }

end Tenant
end TenantLoad
