import TenantLoad.Program.Tasks
import TenantLoad.Proofs.Api.Answer
import TenantLoad.Proofs.Tenant.Persistence
import TenantLoad.Proofs.Tenant.Progress

/-!
# Answers decide what becomes of calls

Every answer has one result for every call, and the result decides whether the
call is made again.  Once a call has been answered with success, its item makes
no other call, even if the classifier takes the status for one that is worth
another attempt.
-/

namespace TenantLoad
namespace Tenant

variable {classifier : Retry.Classifier} {effects past future : List Effect} {origin : Origin}
  {call : Api.Call} {answer : Api.Answer}

/-- An attempt that was answered with success does not call for more. -/
theorem not_callsForMore_of_isSuccess
    (succeeded : answer.isSuccess = true)
    (classifier : Retry.Classifier)
    (call : Api.Call) :
    ¬CallsForMore classifier (answer.attempt call) := by
  rintro ⟨error, fails, verdict⟩
  unfold Api.Answer.attempt at fails
  split at fails
  · cases fails
  · rename_i isError
    obtain rfl := Retry.Attempt.failed.inj fails
    have fatal := Api.Answer.verdict_eq_fatal succeeded isError classifier
    exact absurd (verdict.symm.trans fatal) (by decide)

/-- After an answer of success no call of the item begins. -/
theorem Persists.no_call_of_isSuccess
    (persists : Persists classifier effects)
    (succeeded : answer.isSuccess = true)
    (split : effects = past ++ .ended origin call (answer.attempt call) :: future) :
    ∀ again ∈ calls future, ¬(again.1.task = origin.task ∧ again.1.item = origin.item) := by
  rintro ⟨other, asked⟩ member ⟨sameTask, sameItem⟩
  obtain ⟨between, rest, rfl⟩ := List.append_of_mem (mem_calls_iff.mp member)
  have leavesOpen := persists
    (past ++ .ended origin call (answer.attempt call) :: between) other asked rest (by simp [split])
  refine not_callsForMore_of_isSuccess succeeded classifier call
    (leavesOpen (origin, call, answer.attempt call) ?_ sameTask.symm sameItem.symm)
  exact mem_endings_iff.mpr (by simp)

end Tenant

namespace Program

/-- What an answer decides for a classifier and in a run. -/
structure Decides (classifier : Retry.Classifier) (effects : List Tenant.Effect)
    (answer : Api.Answer) : Prop where
  /-- It has one result for every call. -/
  settles : answer.Settles
  /-- This is what an attempt over a network ends with. -/
  served : ∀ (network : Api.Network) (config : Config) (client : Api.Client) (request : Api.Request)
    (tenant : Nat) (call : Api.Call),
    Api.Client.connect config.target.baseUrl config.connection.userAgent = .ok client →
      client.request call = .ok request → network request = .ok answer →
        ((service network config).respond () tenant call).1.attempt = answer.attempt call
  /-- A failure is worth another attempt if there was no answer, or if its status is in the
  set or is that of a bad request whose body shows a signature. -/
  verdict : ∀ error : Api.Error,
    error.verdict classifier = .retry ↔
      error.isTransport = true ∨
        ∃ status body, error = .rejected status body ∧
          (status ∈ classifier.statuses ∨
            status = 400 ∧ Pattern.isMatch classifier.signatures body.toList = true)
  /-- After a success the item makes no further attempt. -/
  final : answer.isSuccess = true → ∀ past origin call future,
    effects = past ++ .ended origin call (answer.attempt call) :: future →
      ∀ again ∈ Tenant.calls future,
        ¬(again.1.task = origin.task ∧ again.1.item = origin.item)

/-- Every answer decides what becomes of every call in every run, and a success is
final. -/
theorem answers_decide
    {settings : Tenant.Settings}
    {raised : Bool}
    {index : Nat}
    {generator : Random.Generator}
    {happenings : List Tenant.Happening}
    {world : Tenant.World}
    {effects : List Tenant.Effect}
    (runs : Tenant.World.run settings ⟨raised, Tenant.initial index generator⟩ happenings =
      some (world, effects))
    (answer : Api.Answer) :
    Decides settings.classifier effects answer where
  settles := answer.settles
  served := by
    intro network config client request tenant call connected asked answered
    have performed := answer.settles.performed network client call request asked answered
    cases result : answer.result call <;>
      simp only [service, connected, performed, Api.Answer.attempt, result]
  verdict := fun _ => Api.Error.verdict_eq_retry_iff
  final := fun succeeded _ _ _ _ split =>
    (Tenant.World.persists_of_run runs).no_call_of_isSuccess succeeded split

/-- A search that is answered with an unreadable success is not made again, although its
status is in the set. -/
theorem answers_decide_on_an_unreadable_success :
    let settings : Tenant.Settings :=
      { workload := { tablesPerTenant := 1, rowsPerTable := 0, searchRequests := 1 },
        policy := ⟨3, .none⟩, classifier := { Retry.Classifier.standard with statuses := [200] } }
    let answer : Api.Answer := ⟨200, "oops"⟩
    ∃ happenings world past slug search,
      let call : Api.Call := .search slug search
      let effects : List Tenant.Effect :=
        past ++ Tenant.returning ⟨.search 0, some 0, 1⟩ call ⟨2⟩ (Tenant.searchNote 1 search)
          (answer.attempt call)
      Tenant.World.run settings ⟨false, Tenant.initial 0 (.ofSeed 7)⟩ happenings =
          some (world, effects) ∧
        answer.attempt call = .failed (.invalidBody 200 Api.Answer.shapeFault) ∧
        Decides settings.classifier effects answer := by
  intro settings answer
  obtain ⟨table, known, first, before, tables⟩ :=
    Tenant.World.run_toFirstSearches (show 0 < settings.tableCount by decide)
      (show settings.rowCount = 0 by decide) (show settings.rowBatch.canBegin = true by decide)
      0 (.ofSeed 7) ⟨200, .nothing⟩
  have newest : known.newest = 0 := by simp [Tenant.State.newest, tables]
  obtain ⟨search, world, past, after⟩ :=
    Tenant.World.run_firstSearch (show 0 < settings.searchCount by decide)
      (show settings.searchBatch.canBegin = true by decide) table known answer.attempt
  rw [newest] at after
  have runs := Tenant.World.run_append_eq_some_iff.mpr ⟨_, _, _, before, after, rfl⟩
  rw [← List.append_assoc] at runs
  have unreadable : answer.attempt (.search table.slug search) =
      .failed (.invalidBody 200 Api.Answer.shapeFault) := by
    have notRead : Json.Written.parse? "oops" = none :=
      Option.isNone_iff_eq_none.mp (by decide +kernel)
    rw [Api.Answer.attempt, Api.Answer.result_search rfl, Json.readRecord?, notRead]
    rfl
  exact ⟨_, world, first ++ past, table.slug, search, runs, unreadable,
    answers_decide runs answer⟩

end Program
end TenantLoad
