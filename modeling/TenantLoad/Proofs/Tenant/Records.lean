import TenantLoad.Proofs.Metrics.Recorder
import TenantLoad.Proofs.Tenant.Progress
import TenantLoad.Run.Machine

/-!
# Every attempt is recorded once

The end of a call and the entry about it show together, so the entries of a
tenant are those of its calls, in the same order.  A crash leaves no entry.
The entries of an item of a batch are as many as the attempts that its outcome
tells of, and the recorder appends all entries to the buckets of their stages.
-/

namespace TenantLoad
namespace Tenant

/-- The status of the answer that an attempt got. -/
def statusOf? : Api.Attempt → Option Nat
  | .returned reply => some reply.status
  | .failed error => error.status?
  | .crashed _ => none

/-- The label of the failure of an attempt. -/
def kindOf? : Api.Attempt → Option String
  | .failed error => some error.kind
  | _ => none

/-- An entry tells of the end of a call: whether it returned, the status of
the answer, the label of a failure, and in a batch the number of the attempt. -/
structure Reports (ending : Origin × Api.Call × Api.Attempt) (record : Origin × Metrics.Entry) :
    Prop where
  origin : record.1 = ending.1
  ok : record.2.ok = ending.2.2.isReturned
  status : record.2.status = statusOf? ending.2.2
  error : record.2.extra.lookup "error" = (kindOf? ending.2.2).map Json.text
  number : ending.1.item.isSome = true →
    record.2.extra.lookup "attempt" = some (.natural ending.1.attempt)

/-- The calls that ended otherwise than by a crash. -/
def heard (effects : List Effect) : List (Origin × Api.Call × Api.Attempt) :=
  (endings effects).filter fun ending => !ending.2.2.isCrashed

/-- Every call that ended otherwise than by a crash is recorded once, in order. -/
def Reported (effects : List Effect) : Prop :=
  List.Forall₂ Reports (heard effects) (records effects)

variable {settings : Settings} {raised : Bool} {state : State} {effects : List Effect}
  {task : Task} {origin : Origin}

namespace Reported

theorem append
    {later : List Effect}
    (first : Reported effects)
    (second : Reported later) :
    Reported (effects ++ later) := by
  unfold Reported heard
  rw [endings_append, List.filter_append, records_append]
  exact List.rel_append first second

/-- Effects without any end of a call and without any entry. -/
theorem of_silent
    (unended : endings effects = [])
    (unrecorded : records effects = []) :
    Reported effects := by
  rw [Reported, heard, unended, unrecorded]
  exact .nil

/-- The end of a call shows with its entry. -/
theorem returning
    (call : Api.Call)
    (duration : Metrics.Millis)
    {extra : List (String × Json)}
    (attempt : Api.Attempt)
    (unlabelled : extra.lookup "error" = none)
    (numbered : origin.item.isSome = true →
      extra.lookup "attempt" = some (.natural origin.attempt)) :
    Reported (Tenant.returning origin call duration extra attempt) := by
  unfold Reported heard
  rw [endings_returning]
  cases attempt with
  | returned reply =>
      exact .cons ⟨rfl, rfl, rfl, unlabelled, numbered⟩ .nil
  | failed error =>
      refine .cons ⟨rfl, rfl, rfl, ?_, ?_⟩ .nil
      · exact Metrics.lookup_insertMember ..
      · intro inBatch
        exact (Metrics.lookup_insertMember ..).trans (numbered inBatch)
  | crashed message => exact .nil

end Reported

/-! ## Every run -/

/-- The next step ends no call at once. -/
theorem Enters.reported
    {ahead : List Task}
    {next : State}
    {new : List Effect}
    (enters : Enters settings raised state ahead next new) :
    Reported new := by
  cases enters <;> exact .of_silent rfl rfl

/-- An act of a batch is recorded if it ends an attempt. -/
theorem Serves.reported
    {tables : List Table}
    {batchSettings : Batch.Settings}
    {generators : List Random.Generator}
    {errand : Nat → Option Errand}
    (serves : Serves settings tables batchSettings generators task errand)
    (duration : Metrics.Millis)
    (batch : Calls)
    (act : CallAct) :
    Reported (itemEffects task errand duration batch act) := by
  cases act with
  | start index =>
      simp only [itemEffects]
      split <;> exact .of_silent rfl rfl
  | resume index =>
      simp only [itemEffects]
      split <;> exact .of_silent rfl rfl
  | finish index result =>
      simp only [itemEffects]
      split
      · rename_i purpose attempt generator given found
        obtain ⟨numbered, unlabelled⟩ := serves.notes index purpose given attempt
        exact .returning _ _ _ unlabelled fun _ => numbered
      · exact .of_silent rfl rfl
  | _ => exact .of_silent rfl rfl

/-- In every run every call that ended otherwise than by a crash is recorded
once. -/
theorem World.reported_of_run
    {index : Nat}
    {generator : Random.Generator}
    {happenings : List Happening}
    {final : World}
    (runs : World.run settings ⟨raised, Tenant.initial index generator⟩ happenings =
      some (final, effects)) :
    Reported effects := by
  refine (travels_induction (motive := fun _ effects => Reported effects) ?_
    (.of_silent rfl rfl) (fun _ _ soFar => soFar) runs).2
  rintro raised state effects event next new ⟨done, ahead, past, part, _, _, _, stands⟩ soFar
    moves isAct
  refine soFar.append ?_
  cases moves with
  | refuse | connect | unconnected | crashUnconnected | spoiled => exact .of_silent rfl rfl
  | answer ask duration reply asks =>
      obtain ⟨later, _, enters⟩ := enters_resume raised reply asks (stands.of_asking asks).2.1
      exact (Reported.returning _ _ _ rfl (by simp)).append enters.reported
  | fail | crash => exact .returning _ _ _ rfl (by simp)
  | act job duration act next works enabled =>
      obtain ⟨_, _, later, generators, acts, _, serves, _⟩ := stands.of_job works
      exact serves.reported duration job.batch act
  | turn => cases isAct
  | gathered job values works complete isOk =>
      obtain ⟨later, _, enters⟩ := enters_afterBatch raised works (stands.of_job works).2.1
      exact enters.reported

/-! ## Parts of the effects -/

/-- What picks effects by what they are made for picks calls together with
their entries. -/
theorem Reported.filter
    {chosen : Effect → Bool}
    (reported : Reported effects)
    (picked : Origin → Bool)
    (ofEndings : endings (effects.filter chosen) =
      (endings effects).filter fun ending => picked ending.1)
    (ofRecords : records (effects.filter chosen) =
      (records effects).filter fun record => picked record.1) :
    Reported (effects.filter chosen) := by
  have same : heard (effects.filter chosen) =
      (heard effects).filter fun ending => picked ending.1 := by
    rw [heard, ofEndings, heard, List.filter_filter, List.filter_filter]
    exact List.filter_congr fun _ _ => Bool.and_comm ..
  rw [Reported, same, ofRecords]
  refine List.rel_filter ?_ reported
  intro ending record reports
  simp only [reports.origin]

theorem Reported.stageOf
    (reported : Reported effects)
    (stage : Stage) :
    Reported (stageOf stage effects) :=
  reported.filter (fun origin => decide (origin.task.stage = stage))
    (endings_stageOf stage effects) (records_stageOf stage effects)

theorem Reported.partOf
    (reported : Reported effects)
    (task : Task) :
    Reported (partOf task effects) :=
  reported.filter (fun origin => decide (origin.task = task))
    (endings_partOf task effects) (records_partOf task effects)

theorem Reported.threadOf
    (reported : Reported effects)
    (task : Task)
    (item : Option Nat) :
    Reported (threadOf task item effects) :=
  reported.filter (fun origin => decide (origin.task = task ∧ origin.item = item))
    (endings_threadOf task item effects) (records_threadOf task item effects)

/-- Where no call crashed every end of a call is heard of. -/
theorem heard_eq
    (uncrashed : ∀ ending ∈ endings effects, ending.2.2.isCrashed = false) :
    heard effects = endings effects := by
  refine List.filter_eq_self.mpr ?_
  intro ending member
  rw [uncrashed ending member]
  rfl

/-- Related lists agree in what related elements agree in. -/
theorem map_eq_of_forall₂
    {First Second Value : Type}
    {related : First → Second → Prop}
    {first : List First}
    {second : List Second}
    {ofFirst : First → Value}
    {ofSecond : Second → Value}
    (pairs : List.Forall₂ related first second)
    (agree : ∀ one ∈ first, ∀ other, related one other → ofSecond other = ofFirst one) :
    second.map ofSecond = first.map ofFirst := by
  induction pairs with
  | nil => rfl
  | cons head tail inductionHypothesis =>
      rw [List.map_cons, List.map_cons, agree _ (List.mem_cons_self ..) _ head,
        inductionHypothesis fun one member => agree one (List.mem_cons_of_mem _ member)]

/-! ## Buckets -/

/-- A recorder appends the entries of every stage to its bucket. -/
theorem entries_recordAll
    {recorder : Metrics.Recorder}
    (ascending : recorder.Ascending)
    (stage : Stage)
    (effects : List Effect) :
    (Run.State.recordAll recorder effects).entries stage.name =
      recorder.entries stage.name ++ (records (stageOf stage effects)).map Prod.snd := by
  unfold Run.State.recordAll
  induction effects generalizing recorder with
  | nil => simp [Tenant.stageOf, records]
  | cons effect effects inductionHypothesis =>
      have split : Tenant.stageOf stage (effect :: effects) =
          Tenant.stageOf stage [effect] ++ Tenant.stageOf stage effects := stageOf_append [effect] ..
      rw [List.foldl_cons, split, records_append, List.map_append]
      cases effect with
      | connect | call | ended =>
          have unrecorded : ∀ effect : Effect, effect.record? = none →
              records (Tenant.stageOf stage [effect]) = [] := by
            intro effect none
            rw [records_stageOf, records_singleton, none]
            rfl
          rw [inductionHypothesis ascending, unrecorded _ rfl, List.map_nil, List.nil_append]
      | record origin entry =>
          rw [inductionHypothesis (ascending.record ..), Metrics.Recorder.entries_record ascending,
            List.append_assoc, records_stageOf stage [_], records_singleton]
          by_cases same : origin.task.stage = stage
          · simp [Effect.record?, same]
          · have different : stage.name ≠ origin.task.stage.name :=
              fun named => same (Stage.name_injective named).symm
            simp [Effect.record?, same, different]

/-- As many entries are ok as calls have returned. -/
theorem Reported.countP_ok
    (reported : Reported effects) :
    ((records effects).countP fun record => record.2.ok) =
      (endings effects).countP fun ending => ending.2.2.isReturned := by
  have same : (records effects).map (fun record => record.2.ok) =
      (heard effects).map fun ending => ending.2.2.isReturned :=
    map_eq_of_forall₂ reported fun _ _ _ reports => reports.ok
  have counted := congrArg (List.countP id) same
  rw [List.countP_map, List.countP_map, heard, List.countP_filter] at counted
  refine counted.trans (List.countP_congr ?_)
  rintro ⟨origin, call, attempt⟩ _
  cases attempt <;> exact Iff.rfl

/-! ## Calls and their ends -/

section Ends

variable {world : World} {done ahead : List Task} {past part : List Effect}
  {tables : List Table}

/-- Every call that ended has been made, and none ended twice. -/
theorem Survey.subperm
    (survey : Survey settings tables effects done ahead) :
    (answeredCalls effects).Subperm (calls effects) := by
  refine List.subperm_of_subset (List.Nodup.of_map Prod.fst ?_) ?_
  · have origins : (answeredCalls effects).map Prod.fst = (endings effects).map Prod.fst := by
      rw [answeredCalls, List.map_map]
      rfl
    rw [origins]
    refine nodup_endings_of_threads ?_
    intro task item
    obtain ⟨_, _, _, account⟩ := survey.account task
    rw [← threadOf_partOf]
    exact account.nodup_endings_threadOf item
  · intro ask answered
    obtain ⟨ending, ended, rfl⟩ := List.mem_map.mp answered
    obtain ⟨_, _, _, account⟩ := survey.account ending.1.task
    have inPart : (ending.1, ending.2.1) ∈ answeredCalls (partOf ending.1.task effects) := by
      refine List.mem_map.mpr ⟨ending, ?_, rfl⟩
      rw [endings_partOf, List.mem_filter]
      exact ⟨ended, decide_eq_true rfl⟩
    have asked := account.mem_calls_of_mem_answeredCalls inPart
    rw [calls_partOf, List.mem_filter] at asked
    exact asked.1

theorem answeredCalls_stageOf
    (stage : Stage)
    (effects : List Effect) :
    answeredCalls (Tenant.stageOf stage effects) =
      (answeredCalls effects).filter fun ask => decide (ask.1.task.stage = stage) := by
  rw [answeredCalls, endings_stageOf, answeredCalls, List.filter_map]
  rfl

theorem Survey.subperm_stageOf
    (survey : Survey settings tables effects done ahead)
    (stage : Stage) :
    (answeredCalls (Tenant.stageOf stage effects)).Subperm
      (calls (Tenant.stageOf stage effects)) := by
  rw [answeredCalls_stageOf, calls_stageOf]
  exact survey.subperm.filter _

/-- Once a tenant is done every call has ended. -/
theorem Journey.perm_stageOf
    (journey : Journey settings world effects done ahead past part)
    (ended : world.state.isOver = true)
    (stage : Stage) :
    (answeredCalls (Tenant.stageOf stage effects)).Perm
      (calls (Tenant.stageOf stage effects)) := by
  obtain ⟨underWay, paced, idle⟩ := journey.paced stage
  refine (journey.survey.subperm_stageOf stage).perm_of_length_le ?_
  rw [paced.balance, idle ended, answeredCalls, List.length_map]
  exact Nat.le_refl _

end Ends

/-! ## Batches -/

/-- The entries of an item tell of its attempts one by one, and only the last
of them can be ok. -/
structure ItemEntries (entries : List (Origin × Metrics.Entry)) (attempts : Nat) : Prop where
  origins : entries.map (fun record => record.1.attempt) = List.range' 1 attempts
  numbers : entries.map (fun record => record.2.extra.lookup "attempt") =
    (List.range' 1 attempts).map fun attempt => some (.natural attempt)
  onlyLast : ∀ record ∈ entries.dropLast, record.2.ok = false

/-- The entries of a step agree with the report of its batch. -/
structure AgreesWith (task : Task) (part : List Effect)
    (report : Batch.Report Api.Reply Api.Error) : Prop where
  items : ∀ index outcome, report.outcomes[index]? = some outcome →
    ItemEntries (records (threadOf task (some index) part)) outcome.attempts
  total : (records part).length = (report.outcomes.map Batch.Outcome.attempts).sum
  succeeded : ((records part).countP fun record => record.2.ok) = report.succeeded

section Items

variable {index : Nat} {errand : Errand} {thread : List Effect} {results : List Api.Attempt}
  {pending : Bool}

/-- Where no call of an item crashed no attempt of it did. -/
theorem Dialogue.uncrashed
    (dialogue : Dialogue task (some index) errand thread results pending)
    (uncrashed : ∀ ending ∈ endings thread, ending.2.2.isCrashed = false) :
    ∀ result ∈ results, result.isCrashed = false := by
  intro result member
  obtain ⟨place, within, rfl⟩ := List.mem_iff_getElem.mp member
  exact uncrashed _ (dialogue.mem_endings within)

variable (dialogue : Dialogue task (some index) errand thread results pending)
  (pairs : List.Forall₂ Reports (endings thread) (records thread))
include dialogue pairs

/-- The entries of an item are ok where its attempts returned. -/
theorem Dialogue.map_ok :
    ((records thread).map fun record => record.2.ok) =
      results.map Retry.Attempt.isReturned := by
  rw [map_eq_of_forall₂ pairs fun _ _ _ reports => reports.ok, dialogue.endings_eq]
  exact List.ext_getElem (by simp) (by simp)

/-- The entries of an item tell of the attempts that its outcome tells of. -/
theorem Dialogue.itemEntries
    {batchSettings : Batch.Settings}
    {generator : Random.Generator}
    {outcome : Batch.Outcome Api.Reply Api.Error}
    (sums : Batch.Sums batchSettings generator results outcome)
    (counted : results.length = outcome.attempts) :
    ItemEntries (records thread) outcome.attempts := by
  have attempts : ((endings thread).map fun ending => ending.1.attempt) =
      List.range' 1 outcome.attempts := by
    rw [dialogue.endings_eq, ← counted]
    refine List.ext_getElem (by simp) ?_
    intro place within inside
    simp [Nat.add_comm]
  constructor
  · rw [← attempts]
    refine map_eq_of_forall₂ pairs ?_
    intro ending _ record reports
    rw [reports.origin]
  · rw [← attempts, List.map_map]
    refine map_eq_of_forall₂ pairs ?_
    intro ending member record reports
    rw [dialogue.endings_eq, List.mem_mapIdx] at member
    obtain ⟨place, inside, rfl⟩ := member
    exact reports.number rfl
  · intro record member
    have shown : record.2.ok ∈ ((records thread).map fun record => record.2.ok).dropLast := by
      rw [← List.map_dropLast]
      exact List.mem_map_of_mem member
    rw [dialogue.map_ok pairs, ← List.map_dropLast] at shown
    obtain ⟨result, earlier, same⟩ := List.mem_map.mp shown
    rw [← same]
    exact sums.not_returned_of_mem_dropLast result earlier

end Items

section Complete

variable {tables : List Table} {batchSettings : Batch.Settings}
  {generators : List Random.Generator} {errand : Nat → Option Errand} {acts : List CallAct}
  {part : List Effect} {batch : Calls}
  (conduct : Conduct batchSettings generators task errand acts part raised batch)
  (complete : batch.isComplete = true)
include conduct complete

theorem Conduct.length_outcomes :
    (batch.report batchSettings).outcomes.length = generators.length := by
  obtain ⟨_, _, _, begins, runs, _⟩ := conduct.ran
  rw [Batch.World.outcomes_of_isComplete begins runs complete, List.length_mapIdx]

/-- The outcome of an item stands for the attempts that its dialogue shows. -/
theorem Conduct.sums
    {index : Nat}
    {outcome : Batch.Outcome Api.Reply Api.Error}
    (shown : (batch.report batchSettings).outcomes[index]? = some outcome) :
    ∃ purpose generator pending,
      Dialogue task (some index) purpose (threadOf task (some index) part)
          (Batch.results index acts) pending ∧
        Batch.Sums batchSettings generator (Batch.results index acts) outcome := by
  obtain ⟨_, _, _, begins, runs, rfl⟩ := id conduct.ran
  obtain ⟨generator, known, sums⟩ := Batch.World.sums_of_isComplete begins runs complete shown
  have inside : index < batch.cells.size := by
    rw [conduct.size_eq]
    exact (List.getElem?_eq_some_iff.mp known).1
  obtain ⟨purpose, _, dialogue⟩ := conduct.threads index _ (Array.getElem?_eq_getElem inside)
  exact ⟨purpose, generator, _, dialogue, sums⟩

/-- The entries of a complete batch agree with its report. -/
theorem Conduct.agreesWith
    (serves : Serves settings tables batchSettings generators task errand)
    (reported : Reported part)
    (uncrashed : ∀ ending ∈ endings part, ending.2.2.isCrashed = false)
    (draws : ∀ generator, (batchSettings.policy.window.draw generator).isSome = true) :
    AgreesWith task part (batch.report batchSettings) := by
  have account := conduct.account serves
  have item : ∀ (index : Nat) (outcome : Batch.Outcome Api.Reply Api.Error),
      (batch.report batchSettings).outcomes[index]? = some outcome →
        ItemEntries (records (threadOf task (some index) part)) outcome.attempts ∧
          ((records (threadOf task (some index) part)).countP fun record => record.2.ok) =
            outcome.isSuccess.toNat := by
    intro index outcome shown
    obtain ⟨purpose, generator, pending, dialogue, sums⟩ := conduct.sums complete shown
    have ofThread : ∀ ending ∈ endings (threadOf task (some index) part),
        ending.2.2.isCrashed = false := by
      intro ending member
      rw [endings_threadOf, List.mem_filter] at member
      exact uncrashed ending member.1
    have pairs := reported.threadOf task (some index)
    rw [Reported, heard_eq ofThread] at pairs
    have counted := sums.length_eq (dialogue.uncrashed ofThread) draws
    refine ⟨dialogue.itemEntries pairs sums counted, ?_⟩
    rw [(reported.threadOf task (some index)).countP_ok, dialogue.countP_isReturned,
      sums.countP_isReturned]
  -- Counts of the whole step are sums over its items, which are those of the report.
  have summed : ∀ (holds : Origin × Metrics.Entry → Bool)
      (count : Batch.Outcome Api.Reply Api.Error → Nat),
      (∀ (index : Nat) (outcome : Batch.Outcome Api.Reply Api.Error),
        (batch.report batchSettings).outcomes[index]? = some outcome →
          (records (threadOf task (some index) part)).countP holds = count outcome) →
      (records part).countP holds = ((batch.report batchSettings).outcomes.map count).sum := by
    intro holds count each
    rw [account.countP_records holds, serves.items, List.map_map]
    refine congrArg List.sum (List.ext_getElem ?_ ?_)
    · simp [conduct.length_outcomes complete]
    · intro index within inside
      rw [List.length_map] at inside
      simpa using each index _ (List.getElem?_eq_getElem inside)
  refine ⟨fun index outcome shown => (item index outcome shown).1, ?_, ?_⟩
  · rw [← List.countP_true]
    refine summed _ _ ?_
    intro index outcome shown
    have origins := congrArg List.length (item index outcome shown).1.origins
    rw [List.length_map, List.length_range'] at origins
    rw [List.countP_true, origins]
  · rw [summed _ (fun outcome => outcome.isSuccess.toNat)
      fun index outcome shown => (item index outcome shown).2]
    exact sum_map_toNat ..

end Complete

/-! ## The entries of a run -/

/-- The entries that a tenant adds to the bucket of a stage are those of its
calls. -/
structure Recorded (stage : Stage) (world : World) (effects : List Effect) : Prop where
  /-- The ended calls are recorded one by one, in order. -/
  reports : List.Forall₂ Reports (endings (stageOf stage effects))
    (records (stageOf stage effects))
  /-- Only calls that were made have ended, each once at most. -/
  asked : (answeredCalls (stageOf stage effects)).Subperm (calls (stageOf stage effects))
  /-- In the end every call has ended. -/
  answered : world.state.isOver = true →
    (answeredCalls (stageOf stage effects)).Perm (calls (stageOf stage effects))
  /-- The bucket of the stage grows by the entries. -/
  bucket : ∀ recorder : Metrics.Recorder, recorder.Ascending →
    (Run.State.recordAll recorder effects).entries stage.name =
      recorder.entries stage.name ++ (records (stageOf stage effects)).map Prod.snd

/-- Where nothing crashes every attempt is recorded once, and the entries of a
batch agree with its report. -/
theorem attempts_recorded_once
    {index : Nat}
    {generator : Random.Generator}
    {happenings : List Happening}
    {final : World}
    (runs : World.run settings ⟨raised, Tenant.initial index generator⟩ happenings =
      some (final, effects))
    (uncrashed : ∀ ending ∈ endings effects, ending.2.2.isCrashed = false)
    (draws : ∀ generator, (settings.policy.window.draw generator).isSome = true) :
    (∀ stage, Recorded stage final effects) ∧
      ∀ job, final.state.job? settings = some job →
        job.batch.gatherAll.isComplete = true →
          AgreesWith job.task (partOf job.task effects)
            (job.batch.gatherAll.report job.settings) := by
  obtain ⟨done, ahead, past, part, journey⟩ := World.travels_of_run runs
  have reported := World.reported_of_run runs
  constructor
  · intro stage
    have ofStage : ∀ ending ∈ endings (stageOf stage effects),
        ending.2.2.isCrashed = false := by
      intro ending member
      rw [endings_stageOf, List.mem_filter] at member
      exact uncrashed ending member.1
    exact
      { reports := by
          rw [← heard_eq ofStage]
          exact reported.stageOf stage
        asked := journey.survey.subperm_stageOf stage
        answered := fun ended => journey.perm_stageOf ended stage
        bucket := fun _ ascending => entries_recordAll ascending stage effects }
  · intro job works complete
    obtain ⟨plan, rfl, accomplished, stands⟩ := journey
    obtain ⟨rfl, sited, later, generators, acts, isAhead, serves, conduct⟩ :=
      stands.of_job works
    rw [isAhead] at plan
    obtain ⟨_, _, gathered⟩ := conduct.gatherAll
    have ofTask := accomplished.partOf_head plan (conduct.account serves)
    rw [ofTask]
    refine gathered.agreesWith complete serves ?_ ?_ ?_
    · rw [← ofTask]
      exact reported.partOf job.task
    · intro ending member
      exact uncrashed ending (by rw [endings_append]; exact List.mem_append_right _ member)
    · rw [(State.settings_of_job works).1]
      exact draws

/-- A table with one row, whose first attempt fails and whose second one
returns: both are recorded. -/
theorem attempts_recorded_once_with_a_retry :
    let settings : Settings :=
      { workload := { tablesPerTenant := 1, rowsPerTable := 1 }, policy := ⟨2, .none⟩,
        classifier := .standard }
    let reply : Api.Attempt := .returned ⟨200, .nothing⟩
    let reset : Api.Attempt := .failed (.transport "reset")
    let happenings : List Happening :=
      .event (.begin (.returned ())) :: List.replicate 7 (.event (.answered ⟨1⟩ reply)) ++
        [.event (.batch ⟨0⟩ .dispatch), .event (.batch ⟨0⟩ (.start 0)),
          .event (.batch ⟨2⟩ (.finish 0 reset)), .event (.batch ⟨0⟩ (.resume 0)),
          .event (.batch ⟨3⟩ (.finish 0 reply))]
    ∃ final effects job,
      World.run settings ⟨false, Tenant.initial 0 (.ofSeed 7)⟩ happenings =
        some (final, effects) ∧
      final.state.job? settings = some job ∧ job.batch.gatherAll.isComplete = true ∧
      (records (stageOf .addRow effects)).length = 2 ∧
      (∀ stage, Recorded stage final effects) ∧
      AgreesWith job.task (partOf job.task effects)
        (job.batch.gatherAll.report job.settings) := by
  intro settings reply reset happenings
  obtain ⟨table, known, first, before, _, rowless, answers⟩ :=
    World.run_toFirstRows (show 0 < settings.tableCount by decide) 0 (.ofSeed 7) ⟨200, .nothing⟩
  have runsOn :
      (World.run settings ⟨false, (State.insertRows settings table known).1⟩
          (happenings.drop 8)).any
        (fun ended => (endings ended.2).all (fun ending => !ending.2.2.isCrashed) &&
          (records (stageOf .addRow ended.2)).length == 2 &&
          (ended.1.state.job? settings).any fun job => job.batch.gatherAll.isComplete) = true := by
    -- What is drawn does not matter, only how much.
    obtain ⟨⟨⟨rows, generators⟩, last⟩, drawn⟩ :
      ∃ drawn, drawRows 1 known.generator = drawn := ⟨_, rfl⟩
    have rowCount : (drawRows 1 known.generator).1.1.length = 1 := length_drawRows_rows
    have generatorCount : (drawRows 1 known.generator).1.2.length = 1 :=
      length_drawRows_generators
    rw [drawn] at rowCount generatorCount
    obtain ⟨row, rfl⟩ := List.length_eq_one_iff.mp rowCount
    obtain ⟨own, rfl⟩ := List.length_eq_one_iff.mp generatorCount
    have again : Batch.Cell.afterAttempt settings.rowBatch 1 own reset = .resting 2 .zero own :=
      rfl
    have done : Batch.Cell.afterAttempt settings.rowBatch 2 own reply =
      .concluded (.succeeded ⟨200, .nothing⟩ 2) := rfl
    simp only [settings, reset, reply, Settings.rowBatch, UInt64.reduceToNat] at again done
    simp [-List.all_eq_true, -Bool.and_eq_true, settings, reply, reset, happenings,
      List.replicate, World.run, World.step, State.step, State.insertRows_eq, State.inBatch,
      State.moveTo, Settings.rowCount, drawn,
      Batch.State.begin?, Batch.Settings.canBegin, Settings.rowBatch, Batch.State.initial,
      Batch.State.step, Batch.State.dispatch, Batch.State.look, Batch.State.take,
      Batch.State.check, Batch.State.launch, Batch.State.start, Batch.State.finish,
      Batch.State.endAttempt, Batch.State.resume, Batch.State.settle, Batch.State.announce,
      Batch.State.rank, Batch.State.release, Batch.State.stop, Batch.State.setCell,
      Batch.Settings.slots, Batch.slotLimit, Batch.Outcome.ofEnding, again, done]
    rfl
  obtain ⟨⟨final, new⟩, after, held⟩ := (Option.any_eq_true _ _).mp runsOn
  simp only [Bool.and_eq_true, List.all_eq_true, Bool.not_eq_true', beq_iff_eq] at held
  obtain ⟨⟨uncrashedNow, recorded⟩, atWork⟩ := held
  obtain ⟨job, works, complete⟩ := (Option.any_eq_true _ _).mp atWork
  have runs : World.run settings ⟨false, Tenant.initial 0 (.ofSeed 7)⟩ happenings =
      some (final, first ++ new) :=
    World.run_append_eq_some_iff.mpr ⟨_, _, _, before, after, rfl⟩
  have uncrashed : ∀ ending ∈ endings (first ++ new), ending.2.2.isCrashed = false := by
    intro ending member
    rw [endings_append] at member
    rcases List.mem_append.mp member with sooner | now
    · rw [answers.answered ending sooner]
      rfl
    · exact uncrashedNow ending now
  obtain ⟨stages, batches⟩ := attempts_recorded_once runs uncrashed fun _ => rfl
  refine ⟨final, first ++ new, job, runs, works, complete, ?_, stages,
    batches job works complete⟩
  rw [stageOf_append, rowless, List.nil_append]
  exact recorded

end Tenant
end TenantLoad
