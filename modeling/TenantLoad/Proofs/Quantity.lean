import TenantLoad.Quantity
import Mathlib.Data.Rat.Floor

/-!
# Exact quantities

Fractions are quantities whose operations do not round.  What is said of a rule
over any quantity is proved for them, where arithmetic has its laws.
-/

namespace TenantLoad

/-- Fractions as quantities.  There is no next smaller fraction. -/
instance : Quantity ℚ where
  ofNat value := value
  less left right := decide (left < right)
  same left right := decide (left = right)
  floor value := ⌊value⌋
  ceil value := ⌈value⌉
  round value := if 0 ≤ value then ⌊value + 1 / 2⌋ else ⌈value - 1 / 2⌉
  toNat value := ⌊value⌋₊
  previous value := value

namespace Quantity

variable {value other : ℚ}

@[simp] theorem ofNat_rat (count : Nat) : (ofNat count : ℚ) = count := rfl

@[simp] theorem less_rat : less value other = true ↔ value < other := decide_eq_true_iff

@[simp] theorem same_rat : same value other = true ↔ value = other := decide_eq_true_iff

@[simp] theorem toNat_rat (value : ℚ) : toNat value = ⌊value⌋₊ := rfl

theorem floor_of_nonneg
    (nonneg : 0 ≤ value) :
    floor value = (⌊value⌋₊ : ℚ) :=
  (natCast_floor_eq_intCast_floor nonneg).symm

theorem ceil_of_nonneg
    (nonneg : 0 ≤ value) :
    ceil value = (⌈value⌉₊ : ℚ) :=
  (natCast_ceil_eq_intCast_ceil nonneg).symm

theorem round_of_nonneg
    (nonneg : 0 ≤ value) :
    round value = (⌊value + 1 / 2⌋₊ : ℚ) := by
  rw [natCast_floor_eq_intCast_floor (by linarith)]
  exact if_pos nonneg

theorem clamp_eq_max_min (value : ℚ) : clamp value = max 0 (min 1 value) := by
  simp only [clamp, less_rat, ofNat_rat, Nat.cast_zero, Nat.cast_one]
  split_ifs with negative large
  · rw [max_eq_left ((min_le_right _ _).trans negative.le)]
  · rw [min_eq_left large.le, max_eq_right zero_le_one]
  · rw [min_eq_right (not_lt.mp large), max_eq_right (not_lt.mp negative)]

theorem clamp_nonneg (value : ℚ) : 0 ≤ clamp value := by
  rw [clamp_eq_max_min]
  exact le_max_left ..

theorem clamp_le_one (value : ℚ) : clamp value ≤ 1 := by
  rw [clamp_eq_max_min]
  exact max_le zero_le_one (min_le_left ..)

theorem clamp_le_clamp
    (below : value ≤ other) :
    clamp value ≤ clamp other := by
  rw [clamp_eq_max_min, clamp_eq_max_min]
  exact max_le_max_left _ (min_le_min_left _ below)

theorem clamp_of_mem
    (nonneg : 0 ≤ value)
    (small : value ≤ 1) :
    clamp value = value := by
  rw [clamp_eq_max_min, min_eq_right small, max_eq_right nonneg]

end Quantity
end TenantLoad
