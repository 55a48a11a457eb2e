import TenantLoad.Run.Report
import Mathlib.Data.List.Nodup
import Mathlib.Data.List.Perm.Basic

/-!
# The table of outcomes

Outcomes arrive in the order in which tenants end, with those missing that
have died.  They are padded and sorted, and as long as no tenant has two of
them the table does not show that order: every tenant has one line in its
place, its own outcome or that of a crash.
-/

namespace TenantLoad
namespace Run
namespace Report

variable {arrived : List Tenant.Outcome} {count : Nat}

/-- Whether an outcome of a tenant is among some. -/
abbrev names (outcomes : List Tenant.Outcome) (tenant : Nat) : Bool :=
  outcomes.any fun outcome => outcome.tenant == tenant

theorem names_eq_true_iff
    {outcomes : List Tenant.Outcome}
    {tenant : Nat} :
    names outcomes tenant = true ↔ tenant ∈ outcomes.map Tenant.Outcome.tenant := by
  simp [names]

/-- Padding adds the outcome of a crash for each tenant without an outcome. -/
theorem foldl_pad
    {tenants : List Nat}
    (distinct : tenants.Nodup)
    (outcomes : List Tenant.Outcome) :
    tenants.foldl
        (fun outcomes tenant =>
          if names outcomes tenant then outcomes
          else outcomes ++ [.crashed tenant Tenant.Outcome.crashMessage])
        outcomes =
      outcomes ++ (tenants.filter fun tenant => !names outcomes tenant).map fun tenant =>
        .crashed tenant Tenant.Outcome.crashMessage := by
  induction tenants generalizing outcomes with
  | nil => simp
  | cons tenant tenants inductionHypothesis =>
      obtain ⟨fresh, distinctRest⟩ := List.nodup_cons.mp distinct
      rw [List.foldl_cons, List.filter_cons]
      cases named : names outcomes tenant with
      | true => simpa using inductionHypothesis distinctRest outcomes
      | false =>
          -- The new outcome names no later tenant.
          have same : ∀ other ∈ tenants,
              (!names (outcomes ++ [.crashed tenant Tenant.Outcome.crashMessage]) other) =
                !names outcomes other := by
            intro other member
            have different : tenant ≠ other := by
              rintro rfl
              exact fresh member
            simp [names, Tenant.Outcome.crashed, different]
          simp only [Bool.false_eq_true, if_false, Bool.not_false, if_true]
          rw [inductionHypothesis distinctRest, List.filter_congr same, List.map_cons,
            List.append_assoc, List.singleton_append]

theorem pad_eq
    (count : Nat)
    (arrived : List Tenant.Outcome) :
    pad count arrived =
      arrived ++ ((List.range count).filter fun tenant => !names arrived tenant).map fun tenant =>
        .crashed tenant Tenant.Outcome.crashMessage :=
  foldl_pad List.nodup_range arrived

/-- After padding every tenant has one outcome. -/
theorem map_tenant_pad_perm
    (distinct : (arrived.map Tenant.Outcome.tenant).Nodup)
    (within : ∀ outcome ∈ arrived, outcome.tenant < count) :
    ((pad count arrived).map Tenant.Outcome.tenant).Perm (List.range count) := by
  have padded : (pad count arrived).map Tenant.Outcome.tenant =
      arrived.map Tenant.Outcome.tenant ++
        (List.range count).filter fun tenant => !names arrived tenant := by
    rw [pad_eq, List.map_append, List.map_map]
    exact congrArg _ (List.map_id _)
  have apart : ((pad count arrived).map Tenant.Outcome.tenant).Nodup := by
    rw [padded]
    apply distinct.append (List.nodup_range.filter _)
    intro tenant named missing
    have unnamed := (List.mem_filter.mp missing).2
    rw [names_eq_true_iff.mpr named] at unnamed
    cases unnamed
  rw [List.perm_ext_iff_of_nodup apart List.nodup_range]
  intro tenant
  rw [padded, List.mem_append, List.mem_filter, Bool.not_eq_true', ← Bool.not_eq_true,
    names_eq_true_iff, List.mem_range]
  constructor
  · rintro (named | ⟨inside, _⟩)
    · obtain ⟨outcome, member, rfl⟩ := List.mem_map.mp named
      exact within outcome member
    · exact inside
  · intro inside
    by_cases named : tenant ∈ arrived.map Tenant.Outcome.tenant
    · exact Or.inl named
    · exact Or.inr ⟨inside, named⟩

/-- The lines of the table are in the order of the tenants, one for each. -/
theorem map_tenant_arrange
    (distinct : (arrived.map Tenant.Outcome.tenant).Nodup)
    (within : ∀ outcome ∈ arrived, outcome.tenant < count) :
    (arrange count arrived).map Tenant.Outcome.tenant = List.range count := by
  have sorted : ((arrange count arrived).map Tenant.Outcome.tenant).Pairwise (· ≤ ·) := by
    rw [List.pairwise_map]
    have ordered : (arrange count arrived).Pairwise fun first second =>
        decide (first.tenant ≤ second.tenant) = true := by
      apply List.pairwise_mergeSort
      · intro first second third
        simpa using Nat.le_trans
      · intro first second
        simpa using Nat.le_total first.tenant second.tenant
    exact ordered.imp of_decide_eq_true
  have permuted : ((arrange count arrived).map Tenant.Outcome.tenant).Perm (List.range count) :=
    ((List.mergeSort_perm _ _).map _).trans (map_tenant_pad_perm distinct within)
  exact permuted.eq_of_pairwise (fun _ _ _ _ => Nat.le_antisymm) sorted List.pairwise_le_range

theorem mem_arrange_iff
    {outcome : Tenant.Outcome} :
    outcome ∈ arrange count arrived ↔
      outcome ∈ arrived ∨
        ∃ tenant < count, (∀ other ∈ arrived, other.tenant ≠ tenant) ∧
          outcome = .crashed tenant Tenant.Outcome.crashMessage := by
  rw [arrange, List.mem_mergeSort, pad_eq, List.mem_append, List.mem_map]
  apply or_congr_right
  constructor
  · rintro ⟨tenant, member, rfl⟩
    obtain ⟨inside, unnamed⟩ := List.mem_filter.mp member
    refine ⟨tenant, List.mem_range.mp inside, ?_, rfl⟩
    simpa [names] using unnamed
  · rintro ⟨tenant, inside, missing, rfl⟩
    refine ⟨tenant, List.mem_filter.mpr ⟨List.mem_range.mpr inside, ?_⟩, rfl⟩
    simpa [names] using missing

/-- The line of a tenant is its outcome if one has arrived, and that of a crash
if none has. -/
theorem exists_getElem?_arrange
    {index : Nat}
    (distinct : (arrived.map Tenant.Outcome.tenant).Nodup)
    (within : ∀ outcome ∈ arrived, outcome.tenant < count)
    (inside : index < count) :
    ∃ outcome, (arrange count arrived)[index]? = some outcome ∧ outcome.tenant = index ∧
      (outcome ∈ arrived ∨
        outcome = .crashed index Tenant.Outcome.crashMessage ∧
          ∀ other ∈ arrived, other.tenant ≠ index) := by
  have placed : ((arrange count arrived).map Tenant.Outcome.tenant)[index]? = some index := by
    rw [map_tenant_arrange distinct within, List.getElem?_range inside]
  rw [List.getElem?_map, Option.map_eq_some_iff] at placed
  obtain ⟨outcome, found, own⟩ := placed
  refine ⟨outcome, found, own, ?_⟩
  rcases mem_arrange_iff.mp (List.mem_of_getElem? found) with arrives | ⟨tenant, _, missing, rfl⟩
  · exact Or.inl arrives
  · obtain rfl : tenant = index := own
    exact Or.inr ⟨rfl, missing⟩

theorem length_arrange
    (distinct : (arrived.map Tenant.Outcome.tenant).Nodup)
    (within : ∀ outcome ∈ arrived, outcome.tenant < count) :
    (arrange count arrived).length = count := by
  have counted := congrArg List.length (map_tenant_arrange distinct within)
  rwa [List.length_map, List.length_range] at counted

end Report
end Run
end TenantLoad
