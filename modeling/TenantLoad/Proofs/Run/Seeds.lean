import TenantLoad.Run.Machine
import Mathlib.Algebra.Order.Ring.Nat
import Mathlib.Data.List.Nodup
import Mathlib.Logic.Function.Basic

/-!
# Seeds of tenants

In a run with a seed the generators of all tenants are of different seeds.  The
factor that an index is multiplied by has an inverse among the words of 64 bits,
so the index can be found from the seed, and each word is the seed of one index.
-/

namespace TenantLoad
namespace Run

/-- The inverse of `seedStep` among the words of 64 bits. -/
def seedStepInverse : UInt64 := 0xF1DE83E19937733D

theorem seedStep_mul_seedStepInverse : seedStep * seedStepInverse = 1 := by decide

/-- The index of the tenant that has a seed in a run. -/
def tenantOfSeed (seed own : UInt64) : UInt64 := (seed ^^^ own) * seedStepInverse

@[simp] theorem tenantOfSeed_tenantSeed
    (seed tenant : UInt64) :
    tenantOfSeed seed (tenantSeed seed tenant) = tenant := by
  calc (seed ^^^ (seed ^^^ tenant * seedStep)) * seedStepInverse
    _ = tenant * seedStep * seedStepInverse := by
        rw [← UInt64.xor_assoc, UInt64.xor_self, UInt64.zero_xor]
    _ = tenant := by
        rw [UInt64.mul_assoc, seedStep_mul_seedStepInverse, UInt64.mul_one]

@[simp] theorem tenantSeed_tenantOfSeed
    (seed own : UInt64) :
    tenantSeed seed (tenantOfSeed seed own) = own := by
  calc seed ^^^ (seed ^^^ own) * seedStepInverse * seedStep
    _ = seed ^^^ (seed ^^^ own) := by
        rw [UInt64.mul_assoc, UInt64.mul_comm seedStepInverse, seedStep_mul_seedStepInverse,
          UInt64.mul_one]
    _ = own := by
        rw [← UInt64.xor_assoc, UInt64.xor_self, UInt64.zero_xor]

theorem tenantSeed_bijective
    (seed : UInt64) :
    Function.Bijective (tenantSeed seed) :=
  Function.bijective_iff_has_inverse.mpr
    ⟨tenantOfSeed seed, tenantOfSeed_tenantSeed seed, tenantSeed_tenantOfSeed seed⟩

/-- The seed of a tenant in natural numbers. -/
theorem toNat_tenantSeed
    (seed tenant : UInt64) :
    (tenantSeed seed tenant).toNat =
      seed.toNat ^^^ (tenant.toNat * 0x9E3779B97F4A7C15 % 2 ^ 64) := by
  rw [tenantSeed, UInt64.toNat_xor, UInt64.toNat_mul]
  rfl

/-- The seeds of the tenants of a run, in order of their indices. -/
def tenantSeeds (seed : UInt64) (count : Nat) : List UInt64 :=
  (List.range count).map fun index => tenantSeed seed (.ofNat index)

/-- As long as the indices fit into words, the seeds are different. -/
theorem nodup_tenantSeeds
    (seed : UInt64)
    {count : Nat}
    (fits : count ≤ UInt64.size) :
    (tenantSeeds seed count).Nodup := by
  have toNat_ofNat : ∀ index ∈ List.range count, (UInt64.ofNat index).toNat = index := by
    intro index inside
    apply UInt64.toNat_ofNat_of_lt'
    exact Nat.lt_of_lt_of_le (List.mem_range.mp inside) fits
  apply List.Nodup.map_on _ List.nodup_range
  intro first firstInside second secondInside same
  have sameIndex := congrArg UInt64.toNat ((tenantSeed_bijective seed).injective same)
  rwa [toNat_ofNat first firstInside, toNat_ofNat second secondInside] at sameIndex

/-- The tenants of a run begin with the generators of their seeds. -/
theorem State.tenants_initial_of_seed
    (seed : UInt64)
    (count : Nat)
    (entropy : Nat → Random.Generator)
    (recorder : Metrics.Recorder)
    (raised : Bool) :
    (State.initial count (generator entropy (some seed)) recorder raised).tenants.toList =
      (tenantSeeds seed count).mapIdx fun index own => Tenant.initial index (.ofSeed own) := by
  apply List.ext_getElem
  · simp [State.initial, tenantSeeds]
  · intro index _ _
    simp [State.initial, tenantSeeds, generator]

/-- Whatever the seed of a run, the seed of a tenant is a bijective function of
its index: the seed of the run combined with a product of the index.  However
many tenants a run has, each begins with the generator of a seed that no other
one has. -/
theorem tenants_never_share_a_seed
    (seed : UInt64) :
    Function.Bijective (tenantSeed seed) ∧
      (∀ tenant : UInt64, (tenantSeed seed tenant).toNat =
        seed.toNat ^^^ (tenant.toNat * 0x9E3779B97F4A7C15 % 2 ^ 64)) ∧
      ∀ tenants : UInt64, (tenantSeeds seed tenants.toNat).Nodup ∧
        ∀ entropy recorder raised,
          (State.initial tenants.toNat (generator entropy (some seed)) recorder
              raised).tenants.toList =
            (tenantSeeds seed tenants.toNat).mapIdx fun index own =>
              Tenant.initial index (.ofSeed own) := by
  refine ⟨tenantSeed_bijective seed, toNat_tenantSeed seed, ?_⟩
  intro tenants
  exact ⟨nodup_tenantSeeds seed (Nat.le_of_lt tenants.toNat_lt),
    State.tenants_initial_of_seed seed tenants.toNat⟩

end Run
end TenantLoad
