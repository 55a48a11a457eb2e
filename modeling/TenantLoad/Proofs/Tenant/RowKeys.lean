import TenantLoad.Proofs.Api.Request
import TenantLoad.Proofs.Tenant.Order
import TenantLoad.Proofs.Tenant.Progress

/-!
# Keys tell rows apart

The insertion of a row carries a key, and no other call does.  The key tells the
slug of the table and the index of the row, whatever characters the slug has: a
decimal number has no colon, so the last colon of a key is the one that was put
between them.  All attempts at a row are one call, with one key and one body.
-/

namespace TenantLoad

/-- A separator that does not occur behind itself is the last one, and splits a
list in one way. -/
private theorem append_separator_inj
    {Element : Type}
    {separator : Element}
    {left right leftRest rightRest : List Element}
    (leftLast : separator ∉ leftRest)
    (rightLast : separator ∉ rightRest) :
    left ++ separator :: leftRest = right ++ separator :: rightRest ↔
      left = right ∧ leftRest = rightRest := by
  constructor
  · intro same
    rcases List.append_eq_append_iff.mp same with ⟨between, rfl, rest⟩ | ⟨between, rfl, rest⟩
    · cases between with
      | nil => simpa using rest
      | cons first others =>
          obtain ⟨rfl, rfl⟩ := List.cons.inj rest
          exact absurd (by simp) leftLast
    · cases between with
      | nil => simpa using rest.symm
      | cons first others =>
          obtain ⟨rfl, rfl⟩ := List.cons.inj rest
          exact absurd (by simp) rightLast
  · rintro ⟨rfl, rfl⟩
    rfl

namespace Api.Call

/-- A decimal number has no colon. -/
theorem colon_not_mem_repr (number : Nat) : ':' ∉ number.repr.toList :=
  fun member => absurd (Text.isDigit_of_mem_repr member) (by decide)

/-- The characters of a key. -/
theorem toList_rowKey
    (slug : String)
    (row : Nat) :
    (rowKey slug row).toList = slug.toList ++ ':' :: row.repr.toList := by
  simp [rowKey_eq, toString]

/-- A key tells the slug and the index, also where the slug ends like a key. -/
theorem rowKey_inj
    {slug other : String}
    {row another : Nat} :
    rowKey slug row = rowKey other another ↔ slug = other ∧ row = another := by
  rw [← String.toList_inj, toList_rowKey, toList_rowKey,
    append_separator_inj (colon_not_mem_repr row) (colon_not_mem_repr another),
    String.toList_inj, String.toList_inj, Text.repr_inj]

end Api.Call

namespace Tenant

/-- A call inserts the row of an index of a table with a slug, one of the tables
created so far. -/
def Inserts (tables : List Table) (slug : String) (row : Nat) (ask : Origin × Api.Call) : Prop :=
  ∃ table, ask.1.task = .insertRows table ∧ ask.1.item = some row ∧
    tables[table]?.map Table.slug = some slug

/-- The keys of the calls of a run identify rows. -/
structure KeyedByRow (effects : List Effect) : Prop where
  /-- A call has a key exactly if its step inserts rows. -/
  carried : ∀ ask ∈ calls effects, ask.2.key?.isSome = true ↔ ask.1.task.stage = .addRow
  /-- The key is the slug of the table, a colon and the index of the row. -/
  key : ∀ ask ∈ calls effects, ∀ key, ask.2.key? = some key ↔
    ∃ slug row, Inserts (createdTables effects) slug row ask ∧ key = slug ++ ":" ++ toString row
  /-- Two insertions have one key exactly if they are of one slug and one index. -/
  apart : ∀ ask ∈ calls effects, ∀ other ∈ calls effects, ∀ slug row otherSlug otherRow,
    Inserts (createdTables effects) slug row ask →
      Inserts (createdTables effects) otherSlug otherRow other →
        (ask.2.key? = other.2.key? ↔ slug = otherSlug ∧ row = otherRow)
  /-- All attempts of an item are one call, with one key and one body. -/
  repeated : ∀ ask ∈ calls effects, ∀ again ∈ calls effects,
    again.1.task = ask.1.task → again.1.item = ask.1.item → again.2 = ask.2
  /-- Over any connection, a call is sent exactly if it inserts no row or the slug of the
  table may stand in a header. -/
  sendable : ∀ ask ∈ calls effects, ∀ client : Api.Client,
    (∃ request, client.request ask.2 = .ok request) ↔
      ∀ slug row, Inserts (createdTables effects) slug row ask → Api.isHeaderText slug = true
  /-- Over any connection, the request of a call carries the key and the body of the call. -/
  sent : ∀ ask ∈ calls effects, ∀ (client : Api.Client) (request : Api.Request),
    client.request ask.2 = .ok request →
      request.key? = ask.2.key? ∧ request.body = ask.2.body

variable {settings : Settings} {raised : Bool} {world : World} {effects : List Effect}
  {done ahead : List Task} {past part : List Effect} {tables : List Table} {task : Task}
  {item : Option Nat} {call : Api.Call}

/-- The call of a step has a key exactly if the step inserts rows. -/
theorem Task.Fits.key?_eq_some_iff
    {key : String}
    (fits : task.Fits tables item call) :
    call.key? = some key ↔
      ∃ table row slug, task = .insertRows table ∧ item = some row ∧
        tables[table]?.map Table.slug = some slug ∧ key = Api.Call.rowKey slug row := by
  cases task <;> cases item <;> cases call <;> simp only [Fits] at fits
  case insertRows.some.addRow table row slug key' body =>
    obtain ⟨found, rfl⟩ := fits
    constructor
    · intro same
      obtain rfl := Option.some.inj same
      exact ⟨table, row, slug, rfl, rfl, found, rfl⟩
    · rintro ⟨_, _, _, ⟨⟩, ⟨⟩, foundToo, rfl⟩
      rw [Option.some.inj (found.symm.trans foundToo)]
      rfl
  all_goals simp [Api.Call.key?]

theorem Task.Fits.isSome_key?_iff
    (fits : task.Fits tables item call) :
    call.key?.isSome = true ↔ task.stage = .addRow := by
  rw [Option.isSome_iff_exists]
  simp only [fits.key?_eq_some_iff]
  constructor
  · rintro ⟨_, _, _, _, rfl, _⟩
    rfl
  · intro stage
    cases task <;> cases stage
    cases item <;> cases call <;> simp only [Fits] at fits
    exact ⟨_, _, _, _, rfl, rfl, fits.1, rfl⟩

/-- The key of an insertion. -/
theorem Inserts.key?_eq
    {slug : String}
    {row : Nat}
    {ask : Origin × Api.Call}
    (inserts : Inserts tables slug row ask)
    (fits : ask.1.task.Fits tables ask.1.item ask.2) :
    ask.2.key? = some (Api.Call.rowKey slug row) := by
  obtain ⟨table, task, item, found⟩ := inserts
  exact fits.key?_eq_some_iff.mpr ⟨table, row, slug, task, item, found, rfl⟩

/-- Whether the call of a step is sent depends on the slug of the table whose row it
inserts. -/
theorem Task.Fits.isSendable_iff
    {ask : Origin × Api.Call}
    (fits : ask.1.task.Fits tables ask.1.item ask.2) :
    ask.2.IsSendable ↔
      ∀ slug row, Inserts tables slug row ask → Api.isHeaderText slug = true := by
  constructor
  · intro sendable slug row inserts
    rw [← Api.Call.isHeaderText_rowKey slug row]
    exact sendable _ (inserts.key?_eq fits)
  · intro written key keyed
    obtain ⟨table, row, slug, task, item, found, rfl⟩ := fits.key?_eq_some_iff.mp keyed
    rw [Api.Call.isHeaderText_rowKey]
    exact written slug row ⟨table, task, item, found⟩

/-- All calls of a run for one item of one step are the same call. -/
theorem Survey.eq_of_item
    (survey : Survey settings tables effects done ahead)
    {ask again : Origin × Api.Call}
    (asked : ask ∈ calls effects)
    (askedAgain : again ∈ calls effects)
    (sameTask : again.1.task = ask.1.task)
    (sameItem : again.1.item = ask.1.item) :
    again.2 = ask.2 := by
  obtain ⟨results, pending, underWay, account⟩ := survey.account ask.1.task
  have inThread : ∀ other ∈ calls effects, other.1.task = ask.1.task →
      other.1.item = ask.1.item →
        other ∈ calls (threadOf ask.1.task ask.1.item (partOf ask.1.task effects)) := by
    intro other member task item
    rw [threadOf_partOf, calls_threadOf, List.mem_filter]
    exact ⟨member, decide_eq_true ⟨task, item⟩⟩
  have first := inThread ask asked rfl rfl
  have second := inThread again askedAgain sameTask sameItem
  by_cases member : ask.1.item ∈ ask.1.task.items settings
  · obtain ⟨errand, dialogue⟩ := account.threads _ member
    rw [dialogue.calls_eq] at first second
    obtain ⟨_, _, isFirst⟩ := List.mem_map.mp first
    obtain ⟨_, _, isSecond⟩ := List.mem_map.mp second
    exact (Prod.ext_iff.mp isSecond).2.symm.trans (Prod.ext_iff.mp isFirst).2
  · rw [account.threadOf_eq_nil member] at first
    cases first

/-- The keys of every run identify rows, on every schedule and with every slug that the
service gives. -/
theorem keys_identify_rows
    {index : Nat}
    {generator : Random.Generator}
    {happenings : List Happening}
    {final : World}
    (runs : World.run settings ⟨raised, Tenant.initial index generator⟩ happenings =
      some (final, effects)) :
    KeyedByRow effects := by
  obtain ⟨done, ahead, past, part, journey⟩ := World.travels_of_run runs
  have orderly := journey.orderly (World.tables_eq_of_run runs)
  have fits := fun ask asked => (orderly.fits ask asked).2
  refine
    { carried := fun ask asked => (fits ask asked).isSome_key?_iff
      key := ?_
      apart := ?_
      repeated := fun ask asked again askedAgain => journey.survey.eq_of_item asked askedAgain
      sendable := fun ask asked _ =>
        Api.Client.exists_request_iff.trans (fits ask asked).isSendable_iff
      sent := ?_ }
  · intro ask asked key
    rw [(fits ask asked).key?_eq_some_iff]
    constructor
    · rintro ⟨table, row, slug, task, item, found, rfl⟩
      exact ⟨slug, row, ⟨table, task, item, found⟩, Api.Call.rowKey_eq slug row⟩
    · rintro ⟨slug, row, ⟨table, task, item, found⟩, rfl⟩
      exact ⟨table, row, slug, task, item, found, Api.Call.rowKey_eq slug row⟩
  · intro ask asked other askedOther slug row otherSlug otherRow inserts insertsOther
    rw [inserts.key?_eq (fits ask asked), insertsOther.key?_eq (fits other askedOther),
      Option.some.injEq, Api.Call.rowKey_inj]
  · intro ask _ client request made
    obtain ⟨_, rfl⟩ := Api.Client.request_eq_ok_iff.mp made
    exact ⟨ask.2.lookup_headers, rfl⟩

/-- Where all calls are answered alike every table has the slug of the answer. -/
theorem Answers.slug_of_mem_createdTables
    {reply : Api.Reply}
    (answers : Answers (fun _ => .returned reply) effects)
    {table : Table}
    (created : table ∈ createdTables effects) :
    table.slug = reply.slug := by
  obtain ⟨⟨origin, call, attempt⟩, ended, isCreated⟩ := List.mem_filterMap.mp created
  obtain rfl : attempt = .returned reply := answers.answered _ ended
  cases call <;> cases isCreated
  rfl

/-- Two rows of a table whose slug ends like a key are inserted side by side, and the first
one is attempted again: it has the key it had before, and the other one another. -/
theorem keys_identify_rows_of_a_slug_like_a_key :
    let settings : Settings :=
      { workload := { tablesPerTenant := 1, rowsPerTable := 2, rowConcurrency := 2 },
        policy := ⟨2, .none⟩, classifier := .standard }
    ∃ happenings final effects,
      World.run settings ⟨false, Tenant.initial 0 (.ofSeed 7)⟩ happenings =
        some (final, effects) ∧
      ((calls (stageOf .addRow effects)).map fun ask => (ask.1.attempt, ask.2.key?)) =
        [(1, some "work:1:0"), (1, some "work:1:1"), (2, some "work:1:0")] ∧
      KeyedByRow effects := by
  intro settings
  let reset : Api.Attempt := .failed (.transport "reset")
  let events : List Event :=
    [.batch ⟨0⟩ .dispatch, .batch ⟨0⟩ .dispatch, .batch ⟨0⟩ (.start 0), .batch ⟨0⟩ (.start 1),
      .batch ⟨2⟩ (.finish 0 reset), .batch ⟨0⟩ (.resume 0)]
  obtain ⟨table, known, first, before, tables, rowless, answers⟩ :=
    World.run_toFirstRows (show 0 < settings.tableCount by decide) 0 (.ofSeed 7)
      ⟨200, .slug "work:1"⟩
  have slug : table.slug = "work:1" := by
    refine answers.slug_of_mem_createdTables ?_
    rw [← World.tables_eq_of_run before, State.insertRows_eq, tables]
    exact List.mem_singleton.mpr rfl
  obtain ⟨final, new, after, keyed⟩ : ∃ final new,
      World.run settings ⟨false, (State.insertRows settings table known).1⟩
          (events.map .event) = some (final, new) ∧
        ((calls (stageOf .addRow new)).map fun ask => (ask.1.attempt, ask.2.key?)) =
          [(1, some (Api.Call.rowKey table.slug 0)), (1, some (Api.Call.rowKey table.slug 1)),
            (2, some (Api.Call.rowKey table.slug 0))] := by
    -- What is drawn does not matter, only how much.
    obtain ⟨⟨⟨rows, generators⟩, last⟩, drawn⟩ :
      ∃ drawn, drawRows 2 known.generator = drawn := ⟨_, rfl⟩
    have rowCount : (drawRows 2 known.generator).1.1.length = 2 := length_drawRows_rows
    have generatorCount : (drawRows 2 known.generator).1.2.length = 2 :=
      length_drawRows_generators
    rw [drawn] at rowCount generatorCount
    obtain ⟨row, otherRow, rfl⟩ := List.length_eq_two.mp rowCount
    obtain ⟨own, otherOwn, rfl⟩ := List.length_eq_two.mp generatorCount
    have again : Batch.Cell.afterAttempt settings.rowBatch 1 own reset = .resting 2 .zero own :=
      rfl
    simp only [settings, reset, Settings.rowBatch, UInt64.reduceToNat] at again
    simp [settings, reset, events, World.run, World.step, State.step, State.insertRows_eq,
      State.inBatch, State.moveTo, Settings.rowCount, drawn, Batch.State.begin?,
      Batch.Settings.canBegin, Settings.rowBatch, Batch.State.initial, Batch.State.step,
      Batch.State.dispatch, Batch.State.look, Batch.State.take, Batch.State.check,
      Batch.State.launch, Batch.State.start, Batch.State.finish, Batch.State.endAttempt,
      Batch.State.resume, Batch.State.settle, Batch.State.stop, Batch.State.setCell,
      Batch.Settings.slots, Batch.slotLimit, again]
    rfl
  have runs := World.run_append_eq_some_iff.mpr ⟨_, _, _, before, after, rfl⟩
  refine ⟨_, final, first ++ new, runs, ?_, keys_identify_rows runs⟩
  rw [stageOf_append, rowless, List.nil_append, keyed, slug]
  rfl

end Tenant
end TenantLoad
