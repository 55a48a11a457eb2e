import TenantLoad.Proofs.Tenant.Survey

/-!
# Every tenant can come to its end

Something can always happen to a tenant whose work is not over, whatever the
service answers, and every event leaves fewer before it.  So no schedule gets
stuck, and each ends after a number of events that the plan and the budget of
attempts bound.
-/

namespace TenantLoad
namespace Tenant

/-! ## Every event counts -/

/-- The most events that a step has before it. -/
def Settings.weight (settings : Settings) (task : Task) : Nat :=
  if task.isSingle then 1
  else (task.items settings).length * (2 * settings.policy.budget + 8) + 4

/-- The most events that some steps have before them. -/
def Settings.totalWeight (settings : Settings) (tasks : List Task) : Nat :=
  (tasks.map settings.weight).sum

/-- The most events that a tenant has before it. -/
def State.weight (settings : Settings) (state : State) : Nat :=
  match state.position, state.job? settings with
  | .waiting, _ => 1 + settings.totalWeight (state.ahead settings)
  | _, some job =>
    job.batch.weight job.settings + 1 + settings.totalWeight (state.ahead settings).tail
  | _, none => settings.totalWeight (state.ahead settings)

variable {settings : Settings} {raised : Bool} {state next : State} {event : Event}
  {effects new : List Effect} {ahead : List Task} {part : List Effect}

@[simp] theorem Settings.totalWeight_cons
    (settings : Settings)
    (task : Task)
    (later : List Task) :
    settings.totalWeight (task :: later) = settings.weight task + settings.totalWeight later := by
  simp [totalWeight]

namespace State

theorem weight_of_waiting
    (waits : state.position = .waiting) :
    state.weight settings = 1 + settings.totalWeight settings.plan := by
  simp [weight, ahead, waits]

theorem weight_of_asking
    {ask : Ask}
    (asks : state.asking? = some ask) :
    state.weight settings = settings.totalWeight (state.ahead settings) := by
  unfold asking? at asks
  unfold weight job?
  cases position : state.position <;> simp [position] at asks ⊢

theorem weight_of_job
    {job : Job}
    (works : state.job? settings = some job) :
    state.weight settings =
      job.batch.weight job.settings + 1 + settings.totalWeight (state.ahead settings).tail := by
  unfold weight
  rw [works]
  unfold job? at works
  cases position : state.position <;> simp [position] at works ⊢

theorem weight_of_isOver
    (ended : state.isOver = true) :
    state.weight settings = 0 := by
  unfold isOver at ended
  unfold weight job? State.ahead
  cases position : state.position <;> simp [position] at ended ⊢ <;> rfl

end State

/-- Work that goes on has no more events before it than the steps left. -/
theorem Enters.weight_le
    (enters : Enters settings raised state ahead next new) :
    next.weight settings ≤ settings.totalWeight ahead := by
  cases enters with
  | finish | refuse => exact (State.weight_of_isOver rfl).trans_le (Nat.zero_le _)
  | call ask later asks isAhead => rw [State.weight_of_asking asks, isAhead]
  | batch job later generators works isAhead sited tables begins serves =>
      have items : (job.task.items settings).length = generators.length := by
        rw [serves.items, List.length_map, List.length_range]
      have initial := Batch.State.eq_initial_of_begin?_eq_some begins
      have weighs : settings.weight job.task =
          generators.length * (2 * settings.policy.budget + 8) + 4 := by
        simp [Settings.weight, serves.batched, items]
      rw [State.weight_of_job works, isAhead, initial, Batch.State.weight_initial,
        (State.settings_of_job works).1, Settings.totalWeight_cons, weighs, List.tail_cons]
  | crash task later crashed =>
      exact (State.weight_of_isOver (by simp [State.isOver, crashed])).trans_le (Nat.zero_le _)

/-- A batch that has moved has fewer events before it. -/
theorem State.weight_withBatch
    {job : Job}
    (works : state.job? settings = some job)
    (batch : Calls) :
    (state.withBatch batch).weight settings =
      batch.weight job.settings + 1 + settings.totalWeight (state.ahead settings).tail := by
  rw [State.weight_of_job (State.job?_withBatch works batch), State.ahead_withBatch]

/-- Every event leaves fewer events before the tenant. -/
theorem Moves.weight_lt
    (stands : Stands settings raised state ahead part)
    (moves : Moves settings raised state event next new) :
    next.weight settings < state.weight settings := by
  cases moves with
  | refuse connection waits | unconnected source waits | crashUnconnected message waits =>
      rw [State.weight_of_isOver rfl, State.weight_of_waiting waits]
      omega
  | connect waits isUnraised =>
      have asks : (state.moveTo .signingUp).asking? =
          some ⟨.signUp, .signup state.identity, .signup state.identity.email⟩ := rfl
      rw [State.weight_of_waiting waits, State.weight_of_asking asks]
      exact Nat.lt_add_of_pos_left Nat.one_pos
  | answer ask duration reply asks =>
      obtain ⟨later, isAhead, enters⟩ := enters_resume raised reply asks (stands.of_asking asks).2.1
      have single := (state.asks asks (stands.of_asking asks).2.1).1
      have weighs : settings.weight ask.task = 1 := if_pos single
      have less := enters.weight_le
      rw [State.weight_of_asking asks, isAhead, Settings.totalWeight_cons, weighs]
      omega
  | fail ask duration error asks | crash ask duration message asks =>
      obtain ⟨later, isAhead, _⟩ :=
        enters_resume raised ⟨0, .nothing⟩ asks (stands.of_asking asks).2.1
      have single := (state.asks asks (stands.of_asking asks).2.1).1
      have weighs : settings.weight ask.task = 1 := if_pos single
      rw [State.weight_of_isOver rfl, State.weight_of_asking asks, isAhead,
        Settings.totalWeight_cons, weighs]
      omega
  | act job duration act batch works enabled =>
      have less := (Batch.Moves.of_act enabled).weight_lt
      rw [State.weight_withBatch works, State.weight_of_job works]
      omega
  | turn job duration turn batch works enabled =>
      obtain ⟨quiet, _, takes⟩ := Batch.State.takes_of_step enabled
      have less := takes.length_add_weight_le
      rw [List.length_cons] at less
      rw [State.weight_withBatch works, State.weight_of_job works]
      omega
  | gathered job values works complete isOk =>
      obtain ⟨later, isAhead, enters⟩ := enters_afterBatch raised works (stands.of_job works).2.1
      have less := enters.weight_le
      rw [State.weight_of_job works, isAhead, List.tail_cons]
      omega
  | spoiled job failure works complete isError =>
      rw [State.weight_of_isOver rfl, State.weight_of_job works]
      omega

/-- Whether something that happens is an event of the tenant. -/
def Happening.isEvent : Happening → Bool
  | .event _ => true
  | .raise => false

/-- The most events of a tenant in all. -/
def Settings.mostEvents (settings : Settings) : Nat :=
  2 + settings.tableCount *
    (14 + (settings.rowCount + settings.searchCount) * (2 * settings.policy.budget + 8))

theorem Settings.one_add_totalWeight_plan (settings : Settings) :
    1 + settings.totalWeight settings.plan = settings.mostEvents := by
  have table : ∀ table, ((tableTasks table).map settings.weight).sum =
      14 + (settings.rowCount + settings.searchCount) * (2 * settings.policy.budget + 8) := by
    intro table
    simp only [tableTasks, columnTasks, Payload.columns, List.map_cons, List.map_nil,
      List.cons_append, List.nil_append, List.sum_cons, List.sum_nil, weight, Task.isSingle,
      Task.items, List.length_map, List.length_range, if_true, Bool.false_eq_true, if_false]
    rw [Nat.add_mul]
    omega
  have signUp : settings.weight .signUp = 1 := rfl
  rw [plan, totalWeight_cons, signUp, totalWeight, sum_map_tableTasks table, List.length_range,
    mostEvents]
  omega

section Bound

variable {index : Nat} {generator : Random.Generator} {happenings : List Happening}
  {final : World}

/-- A run has no more events than there were before it. -/
theorem World.countP_isEvent_add_weight_le_of_run
    (runs : World.run settings ⟨raised, Tenant.initial index generator⟩ happenings =
      some (final, effects)) :
    happenings.countP Happening.isEvent + final.state.weight settings ≤ settings.mostEvents := by
  induction happenings using List.reverseRecOn generalizing final effects with
  | nil =>
      cases runs
      rw [List.countP_nil, Nat.zero_add, State.weight_of_waiting (by rw [initial_eq]),
        settings.one_add_totalWeight_plan]
  | append_singleton past happening inductionHypothesis =>
      obtain ⟨current, first, second, before, last, rfl⟩ := run_append_eq_some_iff.mp runs
      have soFar := inductionHypothesis before
      obtain ⟨_, new, _, steps, ended, rfl⟩ := run_cons_eq_some_iff.mp last
      cases ended
      rw [List.countP_append]
      cases happening with
      | raise =>
          cases steps
          exact soFar
      | event happened =>
          obtain ⟨⟨next, shown⟩, moves, same⟩ := Option.map_eq_some_iff.mp steps
          cases same
          obtain ⟨_, _, _, _, _, _, _, stands⟩ := World.travels_of_run before
          have less := (Moves.of_step moves).weight_lt stands
          change past.countP Happening.isEvent + 1 + next.weight settings ≤ settings.mostEvents
          omega

end Bound

/-! ## Something can always happen -/

/-- The connection opens, and every call that ends does so as a service has
it; a service answers a call by what it is made for. -/
structure Answers (service : Origin → Api.Attempt) (effects : List Effect) : Prop where
  connected : ∀ connection, .connect connection ∈ effects → connection = .returned ()
  answered : ∀ ending ∈ endings effects, ending.2.2 = service ending.1

namespace Answers

variable {service : Origin → Api.Attempt}

theorem nil (service : Origin → Api.Attempt) : Answers service [] where
  connected := by simp
  answered := by simp [endings]

theorem append_iff
    {later : List Effect} :
    Answers service (effects ++ later) ↔ Answers service effects ∧ Answers service later := by
  constructor
  · intro answers
    refine ⟨⟨fun connection member => answers.connected connection ?_,
        fun ending ended => answers.answered ending ?_⟩,
      ⟨fun connection member => answers.connected connection ?_,
        fun ending ended => answers.answered ending ?_⟩⟩
    · exact List.mem_append_left _ member
    · rw [endings_append]; exact List.mem_append_left _ ended
    · exact List.mem_append_right _ member
    · rw [endings_append]; exact List.mem_append_right _ ended
  · rintro ⟨first, second⟩
    constructor
    · intro connection member
      rcases List.mem_append.mp member with earlier | now
      · exact first.connected connection earlier
      · exact second.connected connection now
    · intro ending ended
      rw [endings_append] at ended
      rcases List.mem_append.mp ended with earlier | now
      · exact first.answered ending earlier
      · exact second.answered ending now

/-- Calls that begin leave all answers to come. -/
theorem call
    (service : Origin → Api.Attempt)
    (origin : Origin)
    (call : Api.Call) :
    Answers service [.call origin call] where
  connected := by simp
  answered := by simp [Effect.ended?]

/-- The connection opens. -/
theorem connect (service : Origin → Api.Attempt) : Answers service [.connect (.returned ())] where
  connected := by
    intro connection member
    exact Effect.connect.inj (List.mem_singleton.mp member)
  answered := by simp [Effect.ended?]

/-- A call that ends as the service has it. -/
theorem returning
    {origin : Origin}
    {attempt : Api.Attempt}
    (answer : service origin = attempt)
    (call : Api.Call)
    (duration : Metrics.Millis)
    (extra : List (String × Json)) :
    Answers service (Tenant.returning origin call duration extra attempt) where
  connected := by
    intro connection member
    cases origin?_of_mem_returning member
  answered := by simp [answer]

end Answers

theorem Enters.answers
    (service : Origin → Api.Attempt)
    (enters : Enters settings raised state ahead next new) :
    Answers service new := by
  cases enters with
  | call ask later => exact .call ..
  | _ => exact .nil service

section Progress

variable (service : Origin → Api.Attempt)

/-- An act of a batch that ends as the service has it. -/
theorem Conduct.answers
    {batchSettings : Batch.Settings}
    {generators : List Random.Generator}
    {task : Task}
    {errand : Nat → Option Errand}
    {acts : List CallAct}
    {batch : Calls}
    {act : CallAct}
    (conduct : Conduct batchSettings generators task errand acts part raised batch)
    (answered : ∀ index result, act = .finish index result →
      result = service ⟨task, some index, (Batch.results index acts).length + 1⟩)
    (duration : Metrics.Millis) :
    Answers service (itemEffects task errand duration batch act) := by
  cases act with
  | start index =>
      simp only [itemEffects]
      split
      · exact .call ..
      · exact .nil service
  | resume index =>
      simp only [itemEffects]
      split
      · exact .call ..
      · exact .nil service
  | finish index result =>
      simp only [itemEffects]
      split
      · rename_i purpose attempt generator given found
        have answer := answered index result rfl
        rw [← conduct.attempt_eq found rfl] at answer
        exact .returning answer.symm _ _ _
      · exact .nil service
  | _ => exact .nil service

/-- Something can happen to a tenant whose work is not over, and the service
answers where a call ends. -/
theorem Stands.exists_event
    (stands : Stands settings raised state ahead part)
    (going : state.isOver = false) :
    ∃ event next new, state.step settings raised event = some (next, new) ∧
      Answers service new := by
  cases stands with
  | waiting waits =>
      have begins : state.step settings raised (.begin (.returned ())) =
          some (state.enter raised .signup (State.signUp (.returned ()))) := by
        simp [State.step, waits]
      refine ⟨_, _, _, begins, ?_⟩
      cases raised with
      | true => exact .nil service
      | false => exact Answers.append_iff.mpr ⟨.connect service, .call service _ _⟩
  | asking ask later asks isAhead sited =>
      cases answer : service ⟨ask.task, none, 1⟩ with
      | returned reply =>
          have ends : state.step settings raised (.answered ⟨0⟩ (.returned reply)) =
              some ((state.resume settings raised reply).1,
                returning ⟨ask.task, none, 1⟩ ask.call ⟨0⟩ [] (.returned reply) ++
                  (state.resume settings raised reply).2) := by
            simp [State.step, State.answered_eq, asks, State.afterCall]
          obtain ⟨_, _, enters⟩ := enters_resume raised reply asks sited
          exact ⟨_, _, _, ends,
            Answers.append_iff.mpr ⟨.returning answer _ _ _, enters.answers service⟩⟩
      | failed error =>
          have ends : state.step settings raised (.answered ⟨0⟩ (.failed error)) =
              some (state.stopFor (ask.failure error),
                returning ⟨ask.task, none, 1⟩ ask.call ⟨0⟩ [] (.failed error)) := by
            simp [State.step, State.answered_eq, asks, State.afterCall]
          exact ⟨_, _, _, ends, .returning answer _ _ _⟩
      | crashed message =>
          have ends : state.step settings raised (.answered ⟨0⟩ (.crashed message)) =
              some (state.moveTo .crashed,
                returning ⟨ask.task, none, 1⟩ ask.call ⟨0⟩ [] (.crashed message)) := by
            simp [State.step, State.answered_eq, asks, State.afterCall]
          exact ⟨_, _, _, ends, .returning answer _ _ _⟩
  | working job later generators acts works isAhead sited serves conduct =>
      obtain ⟨_, _, _, begins, runs, rfl⟩ := id conduct.ran
      cases complete : job.batch.isComplete with
      | true =>
          have gathered := Batch.World.gatherAll_eq_of_isComplete begins runs complete
          have gathers : ∃ ended, state.step settings raised .gather = some ended := by
            simp only [State.step, State.gather_eq, works, Option.bind_some, gathered, complete,
              if_true]
            split <;> exact ⟨_, rfl⟩
          obtain ⟨⟨next, new⟩, steps⟩ := gathers
          refine ⟨_, _, _, steps, ?_⟩
          cases Moves.of_step steps with
          | gathered other values same =>
              obtain ⟨_, _, enters⟩ := enters_afterBatch raised works sited
              exact enters.answers service
          | spoiled => exact .nil service
      | false =>
          obtain ⟨act, enabled, answered⟩ := Batch.World.exists_act_of_not_isComplete
            (fun index attempt => service ⟨job.task, some index, attempt⟩) begins runs complete
          obtain ⟨batch, acts⟩ := Option.isSome_iff_exists.mp enabled
          have steps : state.step settings raised (.act ⟨0⟩ act) =
              some (state.withBatch batch,
                itemEffects job.task job.errand ⟨0⟩ job.batch act) := by
            simp [State.step, State.inBatch_eq, works, acts]
          exact ⟨_, _, _, steps, conduct.answers service answered ⟨0⟩⟩
  | finished ended | stopped _ _ _ ended | crashed _ _ ended => simp [State.isOver, ended] at going

/-- Every run can be carried on until the tenant's work is over, with every call
to come ending as the service has it. -/
theorem World.exists_completion
    {index : Nat}
    {generator : Random.Generator}
    {happenings : List Happening}
    {final : World}
    (runs : World.run settings ⟨raised, Tenant.initial index generator⟩ happenings =
      some (final, effects)) :
    ∃ later last new, (∀ happening ∈ later, happening.isEvent = true) ∧
      World.run settings final later = some (last, new) ∧ Answers service new ∧
        last.state.isOver = true := by
  -- The events before the tenant become fewer and fewer.
  induction weighs : final.state.weight settings using Nat.strongRecOn
    generalizing happenings final effects with
  | ind weight inductionHypothesis =>
      cases ended : final.state.isOver with
      | true => exact ⟨[], final, [], by simp, rfl, .nil service, ended⟩
      | false =>
          obtain ⟨_, _, _, _, _, _, _, stands⟩ := World.travels_of_run runs
          obtain ⟨event, next, first, steps, answers⟩ := stands.exists_event service ended
          have happens : final.step settings (.event event) =
              some (⟨final.raised, next⟩, first) := by
            simp [World.step, steps]
          have one : World.run settings final [.event event] =
              some (⟨final.raised, next⟩, first) :=
            run_cons_eq_some_iff.mpr ⟨_, _, _, happens, rfl, (List.append_nil _).symm⟩
          have carriedOn : World.run settings ⟨raised, Tenant.initial index generator⟩
              (happenings ++ [.event event]) = some (⟨final.raised, next⟩, effects ++ first) :=
            run_append_eq_some_iff.mpr ⟨_, _, _, runs, one, rfl⟩
          have less := (Moves.of_step steps).weight_lt stands
          obtain ⟨later, last, new, areEvents, runsOn, answersOn, isOver⟩ :=
            inductionHypothesis _ (weighs ▸ less) carriedOn rfl
          refine ⟨.event event :: later, last, first ++ new,
            List.forall_mem_cons.mpr ⟨rfl, areEvents⟩,
            run_cons_eq_some_iff.mpr ⟨_, _, _, happens, runsOn, rfl⟩,
            Answers.append_iff.mpr ⟨answers, answersOn⟩, isOver⟩

end Progress

/-! ## The way to the first rows and searches -/

/-- The connection opens, and the calls up to the rows of the first table are all
answered alike. -/
def toFirstRows (reply : Api.Reply) : List Event :=
  .begin (.returned ()) :: List.replicate 7 (.answered ⟨1⟩ (.returned reply))

/-- A tenant with a table to create comes to the rows of the first one. -/
theorem World.run_toFirstRows
    (planned : 0 < settings.tableCount)
    (index : Nat)
    (generator : Random.Generator)
    (reply : Api.Reply) :
    ∃ table known effects,
      World.run settings ⟨false, Tenant.initial index generator⟩
          ((toFirstRows reply).map .event) =
        some (⟨false, (State.insertRows settings table known).1⟩, effects) ∧
      known.tables = [table] ∧ stageOf .addRow effects = [] ∧
      Answers (fun _ => .returned reply) effects := by
  have more : ¬ settings.workload.tablesPerTenant.toNat ≤ 0 := Nat.not_le_of_lt planned
  have quiet (table : Table) (state : State) : (state.insertRows settings table).2 = [] := rfl
  rw [initial_eq]
  -- What is drawn does not matter here.
  generalize Payload.identity index generator = signup
  obtain ⟨⟨request, later⟩, drawn⟩ : ∃ drawn, Payload.newTable 0 signup.2 = drawn := ⟨_, rfl⟩
  refine ⟨⟨request.name, reply.slug⟩, ?_⟩
  simp [toFirstRows, List.replicate, World.run, World.step, State.step, State.enter,
    State.signUp, State.answered, State.afterCall, State.nextTable, State.createTable_eq,
    State.addColumns, State.moveTo, State.withTable, Payload.columns, more, drawn, quiet]
  refine ⟨_, rfl, rfl, rfl, ?_, ?_⟩
  · simp [returning, measuredEntry]
  · simp only [endings, returning, measuredEntry, Effect.ended?, Option.map_some,
      Option.toList_some, List.cons_append, List.nil_append, List.filterMap_cons,
      List.filterMap_nil, List.forall_mem_cons]
    simp

/-- A tenant without rows to insert goes on to the searches at once. -/
theorem State.gather_insertRows
    (rowless : settings.rowCount = 0)
    (fits : settings.rowBatch.canBegin = true)
    (table : Table)
    (state : State) :
    (state.insertRows settings table).1.gather settings false =
      some ((state.insertRows settings table).1.startSearches settings table) := by
  have generatorCount : (drawRows settings.rowCount state.generator).1.2.length = 0 :=
    length_drawRows_generators.trans rowless
  have none : (drawRows settings.rowCount state.generator).1.2 = [] :=
    List.length_eq_zero_iff.mp generatorCount
  rw [State.insertRows_eq]
  simp only [none, Batch.State.begin?, fits, if_true]
  rfl

/-- A tenant with a table to create and no rows for it comes to its searches. -/
theorem World.run_toFirstSearches
    (planned : 0 < settings.tableCount)
    (rowless : settings.rowCount = 0)
    (fits : settings.rowBatch.canBegin = true)
    (index : Nat)
    (generator : Random.Generator)
    (reply : Api.Reply) :
    ∃ table known effects,
      World.run settings ⟨false, Tenant.initial index generator⟩
          ((toFirstRows reply ++ [Event.gather]).map .event) =
        some (⟨false, (State.startSearches settings table known).1⟩, effects) ∧
      known.tables = [table] := by
  obtain ⟨table, known, effects, runs, tables, -, -⟩ :=
    run_toFirstRows planned index generator reply
  refine ⟨table, (State.insertRows settings table known).1, effects, ?_, tables⟩
  rw [List.map_append]
  refine run_append_eq_some_iff.mpr ⟨_, _, [], runs, ?_, (List.append_nil _).symm⟩
  refine run_cons_eq_some_iff.mpr ⟨_, [], [], ?_, rfl, rfl⟩
  simp only [World.step, State.step, State.gather_insertRows rowless fits]
  rfl
/-- The first item of a batch is dispatched and attempted. -/
def firstAttempt (attempt : Api.Attempt) : List Event :=
  [.act ⟨0⟩ .look, .act ⟨0⟩ .take, .act ⟨0⟩ .check, .act ⟨0⟩ .launch, .act ⟨0⟩ (.start 0),
    .act ⟨2⟩ (.finish 0 attempt)]

/-- However the first search of a table is answered, its attempt shows. -/
theorem World.run_firstSearch
    (planned : 0 < settings.searchCount)
    (fits : settings.searchBatch.canBegin = true)
    (table : Table)
    (state : State)
    (attempt : Api.Call → Api.Attempt) :
    ∃ search world first,
      let call : Api.Call := .search table.slug search
      World.run settings ⟨false, (state.startSearches settings table).1⟩
          ((firstAttempt (attempt call)).map .event) =
        some (world, first ++ returning ⟨.search state.newest, some 0, 1⟩ call ⟨2⟩
          (searchNote 1 search) (attempt call)) := by
  -- What is drawn does not matter, only how much.
  obtain ⟨⟨⟨searches, generators⟩, last⟩, drawn⟩ :
    ∃ drawn, drawSearches settings.searchCount state.generator = drawn := ⟨_, rfl⟩
  have searchCount : (drawSearches settings.searchCount state.generator).1.1.length =
      settings.searchCount := length_drawSearches_searches
  have generatorCount : (drawSearches settings.searchCount state.generator).1.2.length =
      settings.searchCount := length_drawSearches_generators
  rw [drawn] at searchCount generatorCount
  obtain ⟨search, others, rfl⟩ := List.exists_cons_of_length_pos (searchCount ▸ planned)
  obtain ⟨own, rest, rfl⟩ := List.exists_cons_of_length_pos (generatorCount ▸ planned)
  have slots : 0 < settings.searchBatch.slots := Nat.le_max_left ..
  refine ⟨search, ?_⟩
  simp [firstAttempt, World.run, World.step, State.step, State.startSearches_eq, drawn,
    Batch.State.begin?, fits, State.inBatch, State.moveTo, Batch.State.initial, Batch.State.act,
    Batch.State.look, Batch.State.take, slots, Batch.State.check, Batch.State.launch,
    Batch.State.start, Batch.State.endAttempt, Batch.State.setCell, itemEffects, searchErrand]
  exact ⟨[_], rfl⟩

end Tenant
end TenantLoad
