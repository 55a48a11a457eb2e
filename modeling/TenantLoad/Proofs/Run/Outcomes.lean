import TenantLoad.Proofs.Run.Arrangement
import TenantLoad.Proofs.Run.Tenants

/-!
# The outcomes of the tenants

At every moment of a run the outcomes that have arrived are those of the
tenants that have ended, one for each.  So the report shows for every tenant
its own outcome, and for one that has died the outcome of a crash, whatever
the order in which they ended.
-/

namespace TenantLoad
namespace Run

namespace State

variable {settings : Tenant.Settings} {state next final : State} {events : List Event}
  {begins : List Begun} {index : Nat}

/-- A run through what happens first and what happens later. -/
theorem run_append_eq_some_iff
    {earlier later : List Event} :
    state.run settings (earlier ++ later) = some (final, begins) ↔
      ∃ between first second, state.run settings earlier = some (between, first) ∧
        between.run settings later = some (final, second) ∧ begins = first ++ second := by
  induction earlier generalizing state begins with
  | nil => simp [run]
  | cons event earlier inductionHypothesis =>
      simp only [List.cons_append, run_cons_eq_some_iff]
      constructor
      · rintro ⟨between, first, rest, steps, runs, rfl⟩
        obtain ⟨moment, second, third, runsSecond, runsThird, rfl⟩ :=
          inductionHypothesis.mp runs
        exact ⟨moment, first ++ second, third, ⟨between, first, second, steps, runsSecond, rfl⟩,
          runsThird, (List.append_assoc ..).symm⟩
      · rintro ⟨moment, _, third, ⟨between, first, second, steps, runsSecond, rfl⟩, runsThird,
          rfl⟩
        exact ⟨between, first, second ++ third, steps,
          inductionHypothesis.mpr ⟨moment, second, third, runsSecond, runsThird, rfl⟩,
          List.append_assoc ..⟩

/-- What holds at first and is kept by the signal and by every event of a tenant
holds after every run. -/
theorem run_induction
    {motive : State → Prop}
    (start : motive state)
    (raise : ∀ current, motive current → motive { current with raised := true })
    (tenant : ∀ (current : State) (index : Nat) (before after : Tenant.State)
      (event : Tenant.Event) (effects : List Tenant.Effect), motive current →
      current.tenants[index]? = some before →
      Tenant.Moves settings current.raised before event after effects →
      motive
        { current with
          tenants := current.tenants.setIfInBounds index after
          arrived := current.arrived ++ (arrival? after).toList
          recorder := recordAll current.recorder effects })
    (runs : state.run settings events = some (final, begins)) :
    motive final := by
  induction events generalizing state begins with
  | nil =>
      cases runs
      exact start
  | cons event events inductionHypothesis =>
      obtain ⟨between, first, later, steps, rest, rfl⟩ := run_cons_eq_some_iff.mp runs
      cases event with
      | raise =>
          cases steps
          exact inductionHypothesis (raise state start) rest
      | tenant index event =>
          obtain ⟨before, after, effects, known, moves, rfl, rfl⟩ := exists_of_step_tenant steps
          exact inductionHypothesis
            (tenant state index before after event effects start known (.of_step moves)) rest

/-! ## Outcomes that arrive -/

/-- An outcome arrives as that of its tenant. -/
theorem tenant_of_arrival?
    {tenant : Tenant.State}
    {outcome : Tenant.Outcome}
    (arrives : arrival? tenant = some outcome) :
    outcome.tenant = tenant.index := by
  unfold arrival? Tenant.State.outcome? at arrives
  cases position : tenant.position with
  | ended failure =>
      simp only [position] at arrives
      cases failure <;> cases arrives <;> rfl
  | _ => simp [position] at arrives

/-- Nothing arrives of a tenant that is at work. -/
theorem arrival?_eq_none_of_going
    {tenant : Tenant.State}
    (going : tenant.isOver = false) :
    arrival? tenant = none := by
  unfold arrival?
  cases position : tenant.position with
  | ended failure => simp [Tenant.State.isOver, position] at going
  | _ => rfl

/-- Who is done has the outcome that arrived, or that of a crash. -/
theorem outcome?_of_isOver
    {tenant : Tenant.State}
    (ended : tenant.isOver = true) :
    tenant.outcome? =
      some ((arrival? tenant).getD (.crashed tenant.index Tenant.Outcome.crashMessage)) := by
  unfold arrival? Tenant.State.outcome?
  cases position : tenant.position with
  | ended failure => cases failure <;> rfl
  | crashed => rfl
  | _ => simp [Tenant.State.isOver, position] at ended

/-- The tenants of a run and the outcomes that have arrived. -/
structure Numbers (count : Nat) (state : State) : Prop where
  size : state.tenants.size = count
  index : ∀ (index : Nat) (tenant : Tenant.State), state.tenants[index]? = some tenant →
    tenant.index = index
  /-- No tenant has two outcomes. -/
  distinct : (state.arrived.map Tenant.Outcome.tenant).Nodup
  /-- An outcome has arrived of every tenant that has ended, and no other. -/
  arrived : ∀ outcome, outcome ∈ state.arrived ↔
    ∃ tenant, state.tenants[outcome.tenant]? = some tenant ∧ arrival? tenant = some outcome

namespace Numbers

variable {count : Nat}

/-- The outcome that arrives from a tenant names its place. -/
theorem tenant_eq
    {before after : Tenant.State}
    {event : Tenant.Event}
    {effects : List Tenant.Effect}
    {outcome : Tenant.Outcome}
    (numbers : Numbers count state)
    (known : state.tenants[index]? = some before)
    (moves : Tenant.Moves settings state.raised before event after effects)
    (arrives : arrival? after = some outcome) :
    outcome.tenant = index := by
  rw [tenant_of_arrival? arrives, moves.index_eq]
  exact numbers.index index before known

/-- Nothing has arrived of a tenant that an event happens to. -/
theorem tenant_ne_of_mem
    {before after : Tenant.State}
    {event : Tenant.Event}
    {effects : List Tenant.Effect}
    {outcome : Tenant.Outcome}
    (numbers : Numbers count state)
    (known : state.tenants[index]? = some before)
    (moves : Tenant.Moves settings state.raised before event after effects)
    (member : outcome ∈ state.arrived) :
    outcome.tenant ≠ index := by
  rintro rfl
  obtain ⟨tenant, found, arrives⟩ := (numbers.arrived outcome).mp member
  rw [known, Option.some.injEq] at found
  rw [← found, arrival?_eq_none_of_going moves.isOver_eq_false] at arrives
  cases arrives

/-- The end of one tenant's work is no other tenant's. -/
theorem tenant
    {before after : Tenant.State}
    {event : Tenant.Event}
    {effects : List Tenant.Effect}
    (numbers : Numbers count state)
    (known : state.tenants[index]? = some before)
    (moves : Tenant.Moves settings state.raised before event after effects) :
    Numbers count
      { state with
        tenants := state.tenants.setIfInBounds index after
        arrived := state.arrived ++ (arrival? after).toList
        recorder := recordAll state.recorder effects } where
  size := by
    rw [Array.size_setIfInBounds]
    exact numbers.size
  index := by
    intro place tenant found
    by_cases here : index = place
    · subst here
      have inside := (Array.getElem?_eq_some_iff.mp known).1
      rw [Array.getElem?_setIfInBounds_self_of_lt inside, Option.some.injEq] at found
      rw [← found, moves.index_eq]
      exact numbers.index index before known
    · rw [Array.getElem?_setIfInBounds_ne here] at found
      exact numbers.index place tenant found
  distinct := by
    rw [List.map_append]
    apply numbers.distinct.append
    · cases arrival? after <;> simp
    · intro place named ends
      obtain ⟨earlier, member, rfl⟩ := List.mem_map.mp named
      obtain ⟨outcome, arrives, same⟩ := List.mem_map.mp ends
      apply numbers.tenant_ne_of_mem known moves member
      rw [← same]
      exact numbers.tenant_eq known moves (Option.mem_toList.mp arrives)
  arrived := by
    intro outcome
    have inside := (Array.getElem?_eq_some_iff.mp known).1
    rw [List.mem_append, Option.mem_toList]
    by_cases here : index = outcome.tenant
    · rw [← here, Array.getElem?_setIfInBounds_self_of_lt inside]
      constructor
      · rintro (earlier | ends)
        · exact absurd here.symm (numbers.tenant_ne_of_mem known moves earlier)
        · exact ⟨after, rfl, ends⟩
      · rintro ⟨tenant, found, arrives⟩
        cases found
        exact Or.inr arrives
    · rw [Array.getElem?_setIfInBounds_ne here, ← numbers.arrived]
      constructor
      · rintro (earlier | ends)
        · exact earlier
        · exact absurd (numbers.tenant_eq known moves ends).symm here
      · exact Or.inl

theorem initial
    (tenants : Nat)
    (generator : Nat → Random.Generator)
    (recorder : Metrics.Recorder)
    (raised : Bool) :
    Numbers tenants (.initial tenants generator recorder raised) := by
  have started : ∀ (index : Nat) (tenant : Tenant.State),
      (State.initial tenants generator recorder raised).tenants[index]? = some tenant →
        tenant = Tenant.initial index (generator index) := by
    intro index tenant found
    have inside : index < tenants := by
      simpa [State.initial] using (Array.getElem?_eq_some_iff.mp found).1
    rw [tenants_initial inside, Option.some.injEq] at found
    exact found.symm
  refine ⟨by simp [State.initial], ?_, List.nodup_nil, ?_⟩
  · intro index tenant found
    rw [started index tenant found, Tenant.initial_eq]
  · intro outcome
    constructor
    · intro member
      cases member
    · rintro ⟨tenant, found, arrives⟩
      rw [started _ tenant found, Tenant.initial_eq] at arrives
      cases arrives

end Numbers

variable {count : Nat} {generator : Nat → Random.Generator} {recorder : Metrics.Recorder}
  {raised : Bool}

/-- Every run keeps the outcomes of its tenants apart. -/
theorem numbers_of_run
    (runs : (initial count generator recorder raised).run settings events =
      some (final, begins)) :
    Numbers count final :=
  run_induction (Numbers.initial count generator recorder raised)
    (fun _ numbers => ⟨numbers.size, numbers.index, numbers.distinct, numbers.arrived⟩)
    (fun _ _ _ _ _ _ numbers known moves => numbers.tenant known moves) runs

theorem Numbers.lt_of_mem_arrived
    {outcome : Tenant.Outcome}
    (numbers : Numbers count state)
    (member : outcome ∈ state.arrived) :
    outcome.tenant < count := by
  obtain ⟨tenant, known, _⟩ := (numbers.arrived outcome).mp member
  rw [← numbers.size]
  exact (Array.getElem?_eq_some_iff.mp known).1

/-- The report shows for a tenant the outcome that arrived from it, or else that
of a crash. -/
theorem Numbers.tenants_report
    {tenant : Tenant.State}
    (numbers : Numbers count state)
    (known : state.tenants[index]? = some tenant)
    (elapsed : Duration) :
    (state.report elapsed).tenants[index]? =
      some ((arrival? tenant).getD (.crashed index Tenant.Outcome.crashMessage)) := by
  have inside : index < count := by
    rw [← numbers.size]
    exact (Array.getElem?_eq_some_iff.mp known).1
  have shown : (state.report elapsed).tenants = Report.arrange count state.arrived := by
    rw [report, numbers.size]
  obtain ⟨outcome, found, rfl, arrives | ⟨crashes, missing⟩⟩ :=
    Report.exists_getElem?_arrange numbers.distinct (fun _ => numbers.lt_of_mem_arrived) inside
  · obtain ⟨other, same, arrives⟩ := (numbers.arrived outcome).mp arrives
    rw [known, Option.some.injEq] at same
    rw [shown, found, same, arrives, Option.getD_some]
  · cases arrives : arrival? tenant with
    | none => rw [shown, found, Option.getD_none, ← crashes]
    | some other =>
        have own : other.tenant = outcome.tenant :=
          (tenant_of_arrival? arrives).trans (numbers.index _ tenant known)
        have member := (numbers.arrived other).mpr ⟨tenant, by rw [own, known], arrives⟩
        exact absurd own (missing other member)

/-- The report shows for a tenant whose work is over its own outcome. -/
theorem Numbers.tenants_report_of_isOver
    {tenant : Tenant.State}
    (numbers : Numbers count state)
    (known : state.tenants[index]? = some tenant)
    (ended : tenant.isOver = true)
    (elapsed : Duration) :
    (state.report elapsed).tenants[index]? = tenant.outcome? := by
  rw [numbers.tenants_report known, outcome?_of_isOver ended, numbers.index index tenant known]

/-- There is one outcome for each tenant. -/
theorem Numbers.length_tenants_report
    (numbers : Numbers count state)
    (elapsed : Duration) :
    (state.report elapsed).tenants.length = count := by
  rw [report, numbers.size]
  exact Report.length_arrange numbers.distinct fun _ => numbers.lt_of_mem_arrived

end State

end Run
end TenantLoad
