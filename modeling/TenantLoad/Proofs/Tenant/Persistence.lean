import TenantLoad.Proofs.Batch.Courses
import TenantLoad.Proofs.Tenant.Survey

/-!
# What a tenant attempts again

On every schedule an item makes another attempt only after failures that are
worth one, whatever the service answers.  A call shows this when it begins: all
attempts of its item that have ended by then call for another one.
-/

namespace TenantLoad
namespace Tenant

/-- Whether the end of an attempt calls for another one. -/
def CallsForMore (classifier : Retry.Classifier) (attempt : Api.Attempt) : Prop :=
  ∃ error, attempt = .failed error ∧ Retry.Retryable.verdict classifier error = .retry

/-- All attempts of the item of an origin that have ended call for more. -/
def LeavesOpen (classifier : Retry.Classifier) (origin : Origin) (effects : List Effect) : Prop :=
  ∀ ending ∈ endings effects, ending.1.task = origin.task → ending.1.item = origin.item →
    CallsForMore classifier ending.2.2

/-- Every call begins when the attempts of its item before it call for more. -/
def Persists (classifier : Retry.Classifier) (effects : List Effect) : Prop :=
  ∀ past origin call future, effects = past ++ .call origin call :: future →
    LeavesOpen classifier origin past

variable {settings : Settings} {classifier : Retry.Classifier} {raised : Bool}
  {state next : State} {effects new : List Effect} {done later : List Task} {task : Task}
  {tables : List Table} {past part : List Effect} {origin : Origin} {call : Api.Call}

/-! ## Effects one after the other -/

/-- What other steps have made leaves an item open. -/
theorem LeavesOpen.of_others
    (others : ∀ effect ∈ effects, effect.task ≠ origin.task) :
    LeavesOpen classifier origin effects := by
  intro ending ended sameTask _
  exact absurd sameTask (others _ (mem_endings_iff.mp ended))

theorem Persists.nil : Persists classifier [] := by
  intro past origin call future split
  simp at split

/-- More effects are well if every call among them begins when it may. -/
theorem Persists.append
    (persists : Persists classifier effects)
    (fresh : ∀ past origin call future, new = past ++ .call origin call :: future →
      LeavesOpen classifier origin (effects ++ past)) :
    Persists classifier (effects ++ new) := by
  intro past origin call future split
  rcases List.append_eq_append_iff.mp split with ⟨between, rfl, isNew⟩ | ⟨between, rfl, isOld⟩
  · exact fresh between origin call future isNew
  · cases between with
    | nil =>
        have open' := fresh [] origin call future isOld.symm
        simpa using open'
    | cons first rest =>
        obtain ⟨rfl, rfl⟩ := List.cons.inj isOld
        exact persists past origin call rest rfl

/-- Effects without calls are well. -/
theorem Persists.append_of_no_calls
    (persists : Persists classifier effects)
    (none : calls new = []) :
    Persists classifier (effects ++ new) := by
  refine persists.append ?_
  rintro past origin call future rfl
  have begun : (origin, call) ∈ calls (past ++ .call origin call :: future) :=
    mem_calls_iff.mpr (by simp)
  rw [none] at begun
  cases begun

/-- One more call is well if it begins when it may. -/
theorem Persists.concat
    (persists : Persists classifier effects)
    (leavesOpen : LeavesOpen classifier origin effects) :
    Persists classifier (effects ++ [.call origin call]) := by
  refine persists.append ?_
  intro past other asked future split
  cases past with
  | nil =>
      cases split
      simpa using leavesOpen
  | cons first rest => simp at split

/-! ## The next step -/

/-- The next step of the plan begins with a call that no earlier step has made. -/
theorem Persists.proceed
    {known : State}
    (persists : Persists classifier (past ++ part))
    (plan : settings.plan = done ++ task :: later)
    (accomplished : Accomplished settings tables done past)
    (owned : ∀ effect ∈ part, effect.task = task)
    (enters : Enters settings raised known later next new) :
    Persists classifier (past ++ part ++ new) := by
  cases enters with
  | finish | refuse | batch | crash => simpa using persists
  | call ask others asks ahead sited known unopened =>
      refine persists.concat (.of_others ?_)
      have distinct := settings.nodup_plan
      rw [plan] at distinct
      obtain ⟨_, distinctAhead, apart⟩ := List.nodup_append.mp distinct
      intro effect member
      rcases List.mem_append.mp member with before | here
      · exact apart _ (accomplished.task_mem effect before) _ (by simp)
      · rw [owned effect here]
        rintro rfl
        exact (List.nodup_cons.mp distinctAhead).1 (by simp)

/-! ## One act of a batch -/

/-- An item that makes another attempt has made none that does not call for more. -/
theorem Conduct.callsForMore
    {batchSettings : Batch.Settings}
    {generators : List Random.Generator}
    {errand : Nat → Option Errand}
    {acts : List CallAct}
    {batch : Calls}
    {index attempt : Nat}
    {cell : Batch.Cell Api.Reply Api.Error}
    {generator : Random.Generator}
    (conduct : Conduct batchSettings generators task errand acts part raised batch)
    (found : batch.cells[index]? = some cell)
    (stands : cell.progress = .trying attempt generator) :
    ∀ result ∈ Batch.results index acts, CallsForMore batchSettings.classifier result := by
  have inside : index < generators.length := by
    rw [← conduct.size_eq]
    exact (Array.getElem?_eq_some_iff.mp found).1
  obtain ⟨_, _, _, begins, runs, rfl⟩ := conduct.ran
  have course := Batch.World.courses_of_run begins runs index _ cell
    (List.getElem?_eq_getElem inside) found
  exact course.failed_of_trying stands

/-- An item that makes another attempt is left open by what has shown so far. -/
theorem Conduct.leavesOpen
    {batchSettings : Batch.Settings}
    {generators : List Random.Generator}
    {errand : Nat → Option Errand}
    {acts : List CallAct}
    {batch : Calls}
    {index attempt number : Nat}
    {cell : Batch.Cell Api.Reply Api.Error}
    {generator : Random.Generator}
    (conduct : Conduct batchSettings generators task errand acts part raised batch)
    (found : batch.cells[index]? = some cell)
    (stands : cell.progress = .trying attempt generator)
    (accomplished : Accomplished settings tables done past)
    (undone : task ∉ done) :
    LeavesOpen batchSettings.classifier ⟨task, some index, number⟩ (past ++ part) := by
  intro ending ended sameTask sameItem
  rw [endings_append] at ended
  rcases List.mem_append.mp ended with before | here
  · have own : ending.1.task ∈ done :=
      accomplished.task_mem _ (mem_endings_iff.mp before)
    rw [sameTask] at own
    exact absurd own undone
  · obtain ⟨purpose, _, dialogue⟩ := conduct.threads index cell found
    have inThread : ending ∈ endings (threadOf task (some index) part) := by
      rw [endings_threadOf, List.mem_filter]
      exact ⟨here, decide_eq_true ⟨sameTask, sameItem⟩⟩
    rw [dialogue.endings_eq, List.mem_mapIdx] at inThread
    obtain ⟨place, within, rfl⟩ := inThread
    exact conduct.callsForMore found stands _ (List.getElem_mem within)

/-- One act of a batch begins a call only of an item that is left open. -/
theorem Persists.after_act
    {job : Job}
    {generators : List Random.Generator}
    {acts : List CallAct}
    {act : CallAct}
    {batch : Calls}
    (persists : Persists job.settings.classifier (past ++ part))
    (conduct :
      Conduct job.settings generators job.task job.errand acts part raised job.batch)
    (accomplished : Accomplished settings tables done past)
    (undone : job.task ∉ done)
    (enabled : job.batch.act job.settings raised act = some batch)
    (duration : Metrics.Millis) :
    Persists job.settings.classifier
      (past ++ part ++ itemEffects job.task job.errand duration job.batch act) := by
  have moves := Batch.Moves.of_act enabled
  cases moves with
  | start index generator found =>
      obtain ⟨purpose, given, _⟩ := conduct.threads index _ found
      have shown : itemEffects job.task job.errand duration job.batch (.start index) =
          [.call ⟨job.task, some index, 1⟩ purpose.call] := by
        simp [itemEffects, given]
      rw [shown]
      exact persists.concat (conduct.leavesOpen found rfl accomplished undone)
  | resume index attempt delay generator found =>
      obtain ⟨purpose, given, _⟩ := conduct.threads index _ found
      have shown : itemEffects job.task job.errand duration job.batch (.resume index) =
          [.call ⟨job.task, some index, attempt⟩ purpose.call] := by
        simp [itemEffects, given, found]
      rw [shown]
      exact persists.concat (conduct.leavesOpen found rfl accomplished undone)
  | finish index attempt generator result found =>
      refine persists.append_of_no_calls ?_
      simp only [itemEffects]
      split
      · exact calls_returning ..
      · rfl
  | refuse | seek | take | halt | clear | launch | announce | rank | release | gather =>
      rw [itemEffects_of_isQuiet rfl, List.append_nil]
      exact persists

/-! ## Runs -/

/-- One event begins a call only of an item that is left open. -/
theorem Persists.step
    {event : Event}
    (persists : Persists settings.classifier effects)
    (travels : Travels settings ⟨raised, state⟩ effects)
    (moves : Moves settings raised state event next new)
    (isAct : event.isTurn = false) :
    Persists settings.classifier (effects ++ new) := by
  obtain ⟨done, ahead, past, part, plan, rfl, accomplished, stands⟩ := travels
  cases moves with
  | refuse | spoiled => simpa using persists
  | unconnected | crashUnconnected => exact persists.append_of_no_calls (by simp [Effect.call?])
  | fail | crash => exact persists.append_of_no_calls (by simp)
  | connect waits isUnraised =>
      obtain ⟨rfl, rfl, _⟩ := stands.of_waiting waits
      obtain rfl : done = [] := List.append_left_eq_self.mp plan.symm
      obtain rfl : past = [] := List.eq_nil_iff_forall_not_mem.mpr fun effect member =>
        List.not_mem_nil (accomplished.task_mem effect member)
      have connected : Persists settings.classifier [.connect (.returned ())] :=
        persists.append_of_no_calls rfl
      exact connected.concat (by simp [LeavesOpen, Effect.ended?])
  | answer ask duration reply asks =>
      obtain ⟨rfl, sited, rfl⟩ := stands.of_asking asks
      obtain ⟨later, isAhead, enters⟩ := enters_resume raised reply asks sited
      obtain ⟨single, fits, _⟩ := state.asks asks sited
      rw [isAhead] at plan
      have exchanged : past ++ (opening ask.task ++ [.call ⟨ask.task, none, 1⟩ ask.call]) ++
          returning ⟨ask.task, none, 1⟩ ask.call duration [] (.returned reply) =
            past ++ (opening ask.task ++ exchange ask.task ask.call duration (.returned reply)) := by
        simp [exchange]
      have answered : Persists settings.classifier
          (past ++ (opening ask.task ++ exchange ask.task ask.call duration (.returned reply))) := by
        rw [← exchanged]
        exact persists.append_of_no_calls (calls_returning ..)
      obtain ⟨_, account, _⟩ := (Completed.ofExchange settings single fits duration reply).account
      rw [← List.append_assoc, exchanged]
      exact answered.proceed plan accomplished account.owned enters
  | act job duration act batch works enabled =>
      obtain ⟨rfl, _, later, generators, acts, isAhead, _, conduct⟩ := stands.of_job works
      rw [isAhead] at plan
      have undone : job.task ∉ done := by
        have distinct := settings.nodup_plan
        rw [plan] at distinct
        exact fun member => (List.nodup_append.mp distinct).2.2 _ member _ (by simp) rfl
      rw [← (State.settings_of_job works).2] at persists ⊢
      exact persists.after_act conduct accomplished undone enabled duration
  | turn => cases isAct
  | gathered job values works complete isOk =>
      obtain ⟨rfl, sited, _, generators, acts, isAhead, serves, conduct⟩ := stands.of_job works
      obtain ⟨after, isAfter, enters⟩ := enters_afterBatch raised works sited
      rw [isAfter] at plan
      exact persists.proceed plan accomplished (conduct.account serves).owned enters

/-- In every run calls begin only of items that are left open. -/
theorem World.persists_of_run
    {index : Nat}
    {generator : Random.Generator}
    {happenings : List Happening}
    {final : World}
    (runs : World.run settings ⟨raised, Tenant.initial index generator⟩ happenings =
      some (final, effects)) :
    Persists settings.classifier effects :=
  (travels_induction (motive := fun _ effects => Persists settings.classifier effects)
    (fun _ _ _ _ _ _ travels persists moves isAct => persists.step travels moves isAct)
    .nil (fun _ _ persists => persists) runs).2

end Tenant
end TenantLoad
