import TenantLoad.Proofs.Metrics.Counts
import TenantLoad.Proofs.Run.Interleaving
import TenantLoad.Proofs.Run.Outcomes
import TenantLoad.Proofs.Tenant.Records

/-!
# The entries of a run

All tenants of a run record into one recorder.  What a run adds to the entries
of a stage interleaves what its tenants record there, each in its own order,
whether they come to their end, fail, crash or are cancelled, and the summary
accounts for all of it.
-/

namespace TenantLoad
namespace Tenant

/-- The entry that an effect adds to a stage. -/
def Effect.entry? (stage : Stage) : Effect → Option Metrics.Entry
  | .record origin entry => if origin.task.stage = stage then some entry else none
  | .connect _ | .call .. | .ended .. => none

/-- The entries that effects add to a stage, in order. -/
def bucketOf (stage : Stage) (effects : List Effect) : List Metrics.Entry :=
  effects.filterMap (Effect.entry? stage)

/-- The entries of a stage are those recorded in it. -/
theorem map_records_stageOf
    (stage : Stage)
    (effects : List Effect) :
    (records (stageOf stage effects)).map Prod.snd = bucketOf stage effects := by
  induction effects with
  | nil => rfl
  | cons effect effects inductionHypothesis =>
      have split : stageOf stage (effect :: effects) =
          stageOf stage [effect] ++ stageOf stage effects := stageOf_append [effect] ..
      rw [split, records_append, List.map_append, inductionHypothesis, records_stageOf,
        records_singleton, bucketOf, bucketOf, ← List.singleton_append, List.filterMap_append]
      congr 1
      cases effect with
      | connect | call | ended => rfl
      | record origin entry =>
          by_cases same : origin.task.stage = stage <;> simp [Effect.record?, Effect.entry?, same]

end Tenant

namespace Metrics

/-- A summary that accounts for all entries of a recorder. -/
structure Summary.Covers (summary : Summary) (recorder : Recorder) : Prop where
  stage : ∀ name stage, summary.stage? name = some stage →
    stage = StageSummary.ofEntries (recorder.entries name)
  missing : ∀ name, summary.stage? name = none → recorder.entries name = []
  total : summary.totalRequests = recorder.totalCount

/-- The summary of a recorder accounts for all of its entries. -/
theorem Recorder.covers_summary (recorder : Recorder) : recorder.summary.Covers recorder where
  stage := by
    intro name stage found
    rw [recorder.stage?_summary, Option.map_eq_some_iff] at found
    obtain ⟨bucket, known, rfl⟩ := found
    rw [Recorder.entries, known, Option.map_some, Option.getD_some]
  missing := by
    intro name unknown
    rw [recorder.stage?_summary, Option.map_eq_none_iff] at unknown
    rw [Recorder.entries, unknown]
    rfl
  total := by
    obtain ⟨stages⟩ := recorder
    unfold Summary.totalRequests Recorder.totalCount Recorder.summary
    rw [List.foldr_map]
    congr 1

end Metrics

namespace Run

open TenantLoad.Tenant (Effect)

namespace State

variable {settings : Tenant.Settings} {state final : State} {events : List Event}
  {begins : List Begun}

theorem recordAll_append
    (recorder : Metrics.Recorder)
    (effects later : List Effect) :
    recordAll recorder (effects ++ later) = recordAll (recordAll recorder effects) later :=
  List.foldl_append

/-- What all tenants do in a run, with the tenant that does it. -/
structure Traced (settings : Tenant.Settings) (state final : State) (events : List Event)
    (begins : List Begun) (tagged : List (Nat × Effect)) : Prop where
  recorded : final.recorder = recordAll state.recorder (tagged.map Prod.snd)
  size : final.tenants.size = state.tenants.size
  within : ∀ entry ∈ tagged, entry.1 < state.tenants.size
  share : ∀ (index : Nat) (before : Tenant.State), state.tenants[index]? = some before →
    ∃ after, Share settings index state final events begins before after (partAt index tagged)

/-- One event of a run is one of the signal or of a single tenant. -/
theorem exists_traced_of_step
    {event : Event}
    (steps : state.step settings event = some (final, begins)) :
    ∃ tagged, Traced settings state final [event] begins tagged := by
  cases event with
  | raise =>
      cases steps
      exact ⟨[], rfl, rfl, by simp, fun index before known => ⟨before, rfl, known, rfl⟩⟩
  | tenant place event =>
      obtain ⟨worker, worked, effects, found, moves, same, _⟩ := exists_of_step_tenant steps
      refine ⟨effects.map fun effect => (place, effect), ?_, ?_, ?_, ?_⟩
      · rw [same, List.map_map]
        exact congrArg _ (List.map_id _).symm
      · rw [same]
        exact Array.size_setIfInBounds
      · intro entry member
        obtain ⟨_, _, rfl⟩ := List.mem_map.mp member
        exact (Array.getElem?_eq_some_iff.mp found).1
      · intro index before known
        by_cases here : place = index
        · subst here
          rw [known, Option.some.injEq] at found
          subst found
          rw [partAt_map_self]
          exact ⟨worked, share_of_step_self steps known moves⟩
        · rw [partAt_map_of_ne here]
          exact ⟨before, share_of_step_other steps known here⟩

/-- What happens first and what happens later are traced together. -/
theorem Traced.append
    {between : State}
    {earlier later : List Event}
    {first second : List Begun}
    {sooner rest : List (Nat × Effect)}
    (before : Traced settings state between earlier first sooner)
    (after : Traced settings between final later second rest) :
    Traced settings state final (earlier ++ later) (first ++ second) (sooner ++ rest) where
  recorded := by
    rw [after.recorded, before.recorded, List.map_append, recordAll_append]
  size := after.size.trans before.size
  within := by
    intro entry member
    rcases List.mem_append.mp member with atFirst | onwards
    · exact before.within entry atFirst
    · rw [← before.size]
      exact after.within entry onwards
  share := by
    intro index tenant known
    obtain ⟨middle, share⟩ := before.share index tenant known
    obtain ⟨last, further⟩ := after.share index middle share.known
    rw [partAt_append]
    exact ⟨last, share.append further⟩

/-- Every run is one of its tenants side by side. -/
theorem exists_traced_of_run
    (runs : state.run settings events = some (final, begins)) :
    ∃ tagged, Traced settings state final events begins tagged := by
  induction events generalizing state begins with
  | nil =>
      cases runs
      exact ⟨[], rfl, rfl, by simp, fun index before known => ⟨before, rfl, known, rfl⟩⟩
  | cons event events inductionHypothesis =>
      obtain ⟨between, first, later, steps, rest, rfl⟩ := run_cons_eq_some_iff.mp runs
      obtain ⟨tagged, now⟩ := exists_traced_of_step steps
      obtain ⟨more, onwards⟩ := inductionHypothesis rest
      exact ⟨tagged ++ more, now.append onwards⟩

/-- What a run adds to the bucket of a stage interleaves what its tenants record
there, each in its own part of the run. -/
theorem exists_buckets_of_run
    (ascending : state.recorder.Ascending)
    (runs : state.run settings events = some (final, begins)) :
    ∃ shares : List (List Effect), shares.length = state.tenants.size ∧
      (∀ index before effects, state.tenants[index]? = some before →
        shares[index]? = some effects →
          ∃ after, Share settings index state final events begins before after effects) ∧
      ∀ stage, ∃ new, Interleaves (shares.map (Tenant.bucketOf stage)) new ∧
        final.recorder.entries stage.name = state.recorder.entries stage.name ++ new := by
  obtain ⟨tagged, traced⟩ := exists_traced_of_run runs
  refine ⟨(List.range state.tenants.size).map fun index => partAt index tagged, by simp, ?_, ?_⟩
  · intro index before effects known found
    rw [List.getElem?_map, Option.map_eq_some_iff] at found
    obtain ⟨place, isPlace, rfl⟩ := found
    obtain ⟨inside, same⟩ := List.getElem?_eq_some_iff.mp isPlace
    rw [List.getElem_range] at same
    subst same
    exact traced.share index before known
  · intro stage
    refine ⟨_, (interleaves_partAt traced.within).filterMap (Effect.entry? stage), ?_⟩
    rw [traced.recorded, Tenant.entries_recordAll ascending, Tenant.map_records_stageOf]
    rfl

end State

end Run
end TenantLoad
