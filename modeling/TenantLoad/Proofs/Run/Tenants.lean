import TenantLoad.Proofs.Tenant.Runs
import TenantLoad.Run.Machine

/-!
# The tenants of a run

A tenant sees of a run its own events and the shutdown signal.  What the other
tenants do leaves it as it is, so its part of a run is a run of its own, and a
run of its own is one in which the others do nothing.
-/

namespace TenantLoad
namespace Run

open TenantLoad.Tenant (Effect)

/-- What a tenant sees of an event of the run. -/
def Event.seenBy (index : Nat) : Event → Option Tenant.Happening
  | .raise => some .raise
  | .tenant other event => if other = index then some (.event event) else none

/-- What happens to a tenant as an event of the run. -/
def Event.ofTenant (index : Nat) : Tenant.Happening → Event
  | .raise => .raise
  | .event event => .tenant index event

/-- What a run is to one of its tenants: a run of its own, with the calls that
this tenant begins. -/
structure Share (settings : Tenant.Settings) (index : Nat) (start final : State)
    (events : List Event) (begins : List Begun) (before after : Tenant.State)
    (effects : List Effect) : Prop where
  runs : Tenant.World.run settings ⟨start.raised, before⟩
    (events.filterMap (Event.seenBy index)) = some (⟨final.raised, after⟩, effects)
  known : final.tenants[index]? = some after
  begun : State.begun index effects = begins.filter fun call => call.tenant = index

namespace State

variable {settings : Tenant.Settings} {state final : State} {events : List Event}
  {begins : List Begun} {index : Nat} {tenant : Tenant.State}

/-- The calls that a tenant begins are its own. -/
theorem tenant_of_mem_begun
    {effects : List Effect}
    {call : Begun}
    (member : call ∈ begun index effects) :
    call.tenant = index := by
  obtain ⟨effect, _, shows⟩ := List.mem_filterMap.mp member
  cases effect <;> cases shows
  rfl

theorem begun_append
    (index : Nat)
    (effects later : List Effect) :
    begun index (effects ++ later) = begun index effects ++ begun index later :=
  List.filterMap_append

/-- A run through its first event. -/
theorem run_cons_eq_some_iff
    {event : Event}
    {rest : List Event} :
    state.run settings (event :: rest) = some (final, begins) ↔
      ∃ between first later, state.step settings event = some (between, first) ∧
        between.run settings rest = some (final, later) ∧ begins = first ++ later := by
  simp only [run, Option.bind_eq_bind, Option.bind_eq_some_iff, Prod.exists, Option.pure_def,
    Option.some.injEq, Prod.mk.injEq]
  constructor
  · rintro ⟨between, first, steps, last, later, runs, rfl, rfl⟩
    exact ⟨between, first, later, steps, runs, rfl⟩
  · rintro ⟨between, first, later, steps, runs, rfl⟩
    exact ⟨between, first, steps, final, later, runs, rfl, rfl⟩

/-- The effect of an event of a tenant on a run. -/
theorem exists_of_step_tenant
    {event : Tenant.Event}
    {next : State}
    (steps : state.step settings (.tenant index event) = some (next, begins)) :
    ∃ before after effects,
      state.tenants[index]? = some before ∧
      before.step settings state.raised event = some (after, effects) ∧
      next =
        { state with
          tenants := state.tenants.setIfInBounds index after
          arrived := state.arrived ++ (arrival? after).toList
          recorder := recordAll state.recorder effects } ∧
      begins = begun index effects := by
  simp only [step] at steps
  split at steps
  · cases steps
  · rename_i before known
    obtain ⟨⟨after, effects⟩, moves, same⟩ := Option.map_eq_some_iff.mp steps
    cases same
    exact ⟨before, after, effects, known, moves, rfl, rfl⟩

/-- An event of a tenant is the tenant's own. -/
theorem share_of_step_self
    {event : Tenant.Event}
    {before after : Tenant.State}
    {next : State}
    {effects : List Effect}
    (steps : state.step settings (.tenant index event) = some (next, begins))
    (known : state.tenants[index]? = some before)
    (moves : before.step settings state.raised event = some (after, effects)) :
    Share settings index state next [.tenant index event] begins before after effects := by
  obtain ⟨_, _, _, found, same, rfl, rfl⟩ := exists_of_step_tenant steps
  rw [known, Option.some.injEq] at found
  subst found
  rw [moves, Option.some.injEq, Prod.mk.injEq] at same
  obtain ⟨rfl, rfl⟩ := same
  have inside := (Array.getElem?_eq_some_iff.mp known).1
  refine ⟨?_, Array.getElem?_setIfInBounds_self_of_lt inside, ?_⟩
  · simp [Event.seenBy, Tenant.World.run, Tenant.World.step, moves]
  · refine (List.filter_eq_self.mpr ?_).symm
    intro call member
    exact decide_eq_true (tenant_of_mem_begun member)

/-- An event of a tenant is nothing to the others. -/
theorem share_of_step_other
    {event : Tenant.Event}
    {other : Nat}
    {before : Tenant.State}
    {next : State}
    (steps : state.step settings (.tenant other event) = some (next, begins))
    (known : state.tenants[index]? = some before)
    (different : other ≠ index) :
    Share settings index state next [.tenant other event] begins before before [] := by
  obtain ⟨_, _, _, _, _, rfl, rfl⟩ := exists_of_step_tenant steps
  refine ⟨?_, ?_, ?_⟩
  · simp [Event.seenBy, different, Tenant.World.run]
  · rw [Array.getElem?_setIfInBounds_ne different]
    exact known
  · refine (List.filter_eq_nil_iff.mpr ?_).symm
    intro call member
    simpa [tenant_of_mem_begun member] using different

/-- One event of a run as a tenant sees it. -/
theorem share_of_step
    {event : Event}
    {before : Tenant.State}
    {next : State}
    (steps : state.step settings event = some (next, begins))
    (known : state.tenants[index]? = some before) :
    ∃ after effects,
      Share settings index state next [event] begins before after effects := by
  cases event with
  | raise =>
      cases steps
      exact ⟨before, [], rfl, known, rfl⟩
  | tenant other happened =>
      by_cases here : other = index
      · subst here
        obtain ⟨_, after, effects, found, moves, _⟩ := exists_of_step_tenant steps
        rw [known, Option.some.injEq] at found
        subst found
        exact ⟨after, effects, share_of_step_self steps known moves⟩
      · exact ⟨before, [], share_of_step_other steps known here⟩

end State

/-- A tenant's shares of what happens first and later make up its share of
both. -/
theorem Share.append
    {settings : Tenant.Settings}
    {index : Nat}
    {state between final : State}
    {earlier later : List Event}
    {first second : List Begun}
    {before middle after : Tenant.State}
    {effects more : List Effect}
    (sooner : Share settings index state between earlier first before middle effects)
    (rest : Share settings index between final later second middle after more) :
    Share settings index state final (earlier ++ later) (first ++ second) before after
      (effects ++ more) where
  runs := by
    rw [List.filterMap_append]
    exact Tenant.World.run_append_eq_some_iff.mpr ⟨_, _, _, sooner.runs, rest.runs, rfl⟩
  known := rest.known
  begun := by rw [State.begun_append, sooner.begun, rest.begun, List.filter_append]

namespace State

variable {settings : Tenant.Settings} {state final : State} {events : List Event}
  {begins : List Begun} {index : Nat}

/-- Every tenant of a run has its share of it. -/
theorem share_of_run
    {before : Tenant.State}
    (runs : state.run settings events = some (final, begins))
    (known : state.tenants[index]? = some before) :
    ∃ after effects,
      Share settings index state final events begins before after effects := by
  induction events generalizing state begins before with
  | nil =>
      cases runs
      exact ⟨before, [], rfl, known, rfl⟩
  | cons event events inductionHypothesis =>
      obtain ⟨between, first, later, steps, rest, rfl⟩ := run_cons_eq_some_iff.mp runs
      obtain ⟨middle, effects, sooner⟩ := share_of_step steps known
      obtain ⟨after, more, rest⟩ := inductionHypothesis rest sooner.known
      exact ⟨after, effects ++ more, sooner.append rest⟩

/-- An event of a tenant as an event of the run. -/
theorem step_tenant
    {before next : Tenant.State}
    {event : Tenant.Event}
    {effects : List Effect}
    (known : state.tenants[index]? = some before)
    (moves : before.step settings state.raised event = some (next, effects)) :
    state.step settings (.tenant index event) =
      some ({ state with
          tenants := state.tenants.setIfInBounds index next
          arrived := state.arrived ++ (arrival? next).toList
          recorder := recordAll state.recorder effects }, begun index effects) := by
  simp [step, known, moves]

/-- What a tenant does on its own it does in a run where the others do nothing. -/
theorem exists_run_of_tenant
    {before after : Tenant.State}
    {raised : Bool}
    {happenings : List Tenant.Happening}
    {effects : List Effect}
    (runs : Tenant.World.run settings ⟨state.raised, before⟩ happenings =
      some (⟨raised, after⟩, effects))
    (known : state.tenants[index]? = some before) :
    ∃ final, state.run settings (happenings.map (Event.ofTenant index)) =
        some (final, begun index effects) ∧
      final.tenants[index]? = some after := by
  induction happenings generalizing state before effects with
  | nil =>
      cases runs
      exact ⟨state, rfl, known⟩
  | cons happening happenings inductionHypothesis =>
      obtain ⟨⟨signal, middle⟩, first, later, steps, rest, rfl⟩ :=
        Tenant.World.run_cons_eq_some_iff.mp runs
      obtain ⟨between, stepsToo, raisedToo, knownToo⟩ :
        ∃ between, state.step settings (Event.ofTenant index happening) =
            some (between, begun index first) ∧
          between.raised = signal ∧ between.tenants[index]? = some middle := by
        cases happening with
        | raise =>
            cases steps
            exact ⟨_, rfl, rfl, known⟩
        | event event =>
            obtain ⟨⟨next, shown⟩, moves, same⟩ := Option.map_eq_some_iff.mp steps
            cases same
            have inside := (Array.getElem?_eq_some_iff.mp known).1
            exact ⟨_, step_tenant known moves, rfl,
              Array.getElem?_setIfInBounds_self_of_lt inside⟩
      subst raisedToo
      obtain ⟨final, runsToo, last⟩ := inductionHypothesis rest knownToo
      refine ⟨final, ?_, last⟩
      rw [begun_append]
      exact run_cons_eq_some_iff.mpr ⟨_, _, _, stepsToo, runsToo, rfl⟩

/-- A tenant of a run that has not begun has its own generator. -/
theorem tenants_initial
    {tenants : Nat}
    (inside : index < tenants)
    (generator : Nat → Random.Generator)
    (recorder : Metrics.Recorder)
    (raised : Bool) :
    (initial tenants generator recorder raised).tenants[index]? =
      some (Tenant.initial index (generator index)) := by
  simp [initial, inside]

end State

end Run
end TenantLoad
