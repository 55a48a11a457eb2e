import TenantLoad.Retry.Jitter

/-!
# Retry policies

A policy bounds the number of attempts and gives the window of the delays
between them.  A bound of zero still lets the first attempt run.
-/

namespace TenantLoad
namespace Retry

/-- How often and after what delays an operation is attempted. -/
structure Policy where
  maxAttempts : UInt32
  window : JitterWindow
  deriving DecidableEq

namespace Policy

/-- The policy that is used unless another is chosen. -/
def standard : Policy := ⟨4, .standard⟩

/-- One attempt and no delay. -/
def single : Policy := ⟨1, .none⟩

/-- The attempts that follow the first one. -/
def retries (policy : Policy) : Nat := policy.maxAttempts.toNat - 1

/-- The number of attempts that an operation may really take. -/
def budget (policy : Policy) : Nat := max 1 policy.maxAttempts.toNat

theorem one_le_budget (policy : Policy) : 1 ≤ policy.budget := Nat.le_max_left _ _

theorem budget_lt (policy : Policy) : policy.budget < 0x100000000 := by
  have := policy.maxAttempts.toNat_lt
  unfold budget
  omega

end Policy
end Retry
end TenantLoad
