import TenantLoad.Random.Draw
import Mathlib.Algebra.Order.Ring.Nat

/-!
# Whole numbers stay in their range

A whole number that is drawn from a range is in it, whatever raw words the
source gives and however many of them are refused.  A source of zeros draws the
least of the range.
-/

namespace TenantLoad
namespace Random

/-- A source that gives nothing but zeros. -/
inductive Zeros where
  | endless

instance : Words Zeros := ⟨fun zeros => (0, zeros), fun zeros => (0, zeros), refusalLimit⟩

namespace Draw

variable {Source : Type} {width count low high : Nat} {raw : StateM Source Nat}

/-- A raw value is accepted, or the next one is tried. -/
theorem belowByRejection_succ
    (zone refusals : Nat)
    (source : Source) :
    belowByRejection width count zone raw (refusals + 1) source =
      if (raw source).1 * count % 2 ^ width ≤ zone then
        ((raw source).1 * count / 2 ^ width, (raw source).2)
      else
        belowByRejection width count zone raw refusals (raw source).2 := by
  change (if (raw source).1 * count % 2 ^ width ≤ zone then
      (pure ((raw source).1 * count / 2 ^ width) : StateM Source Nat)
    else
      belowByRejection width count zone raw refusals) (raw source).2 = _
  split <;> rfl

/-- The high half of a product is below its factor, so it does not matter which
raw value is accepted. -/
theorem belowByRejection_lt
    (zone refusals : Nat)
    (source : Source)
    (bounded : ∀ source, (raw source).1 < 2 ^ width)
    (positive : 0 < count) :
    (belowByRejection width count zone raw refusals source).1 < count := by
  induction refusals generalizing source with
  | zero => exact positive
  | succ refusals inductionHypothesis =>
      rw [belowByRejection_succ]
      split
      · apply Nat.div_lt_of_lt_mul
        exact Nat.mul_lt_mul_of_pos_right (bounded source) positive
      · exact inductionHypothesis (raw source).2

/-- Raw zeros are accepted at once. -/
theorem belowByRejection_of_zeros
    (zone refusals : Nat)
    (source : Source)
    (zeros : ∀ source, (raw source).1 = 0) :
    (belowByRejection width count zone raw refusals source).1 = 0 := by
  cases refusals with
  | zero => rfl
  | succ refusals =>
      rw [belowByRejection_succ, zeros, if_pos (by simp)]
      simp

section Words

variable [Words Source]

/-- Only the range of all raw values has as many members as there are raw
values, and it takes one as it is. -/
theorem between_of_count_eq
    (whole : high - low + 1 = 2 ^ width) :
    between width raw low high = raw :=
  if_pos whole

theorem between_of_count_ne
    (part : high - low + 1 ≠ 2 ^ width)
    (source : Source) :
    (between width raw low high source).1 =
      low + (belowByRejection width (high - low + 1) (acceptedZone width (high - low + 1)) raw
        (Words.patience Source) source).1 := by
  have drawn : between width raw low high = (do
      let offset ← belowByRejection width (high - low + 1)
        (acceptedZone width (high - low + 1)) raw (Words.patience Source)
      pure (low + offset)) := if_neg part
  rw [drawn]
  rfl

theorem between_mem_range
    (source : Source)
    (bounded : ∀ source, (raw source).1 < 2 ^ width)
    (ordered : low ≤ high)
    (fits : high < 2 ^ width) :
    low ≤ (between width raw low high source).1 ∧
      (between width raw low high source).1 ≤ high := by
  by_cases whole : high - low + 1 = 2 ^ width
  · have isRaw := bounded source
    rw [between_of_count_eq whole]
    omega
  · have positive : 0 < high - low + 1 := Nat.succ_pos _
    have below := belowByRejection_lt (acceptedZone width (high - low + 1)) (Words.patience Source)
      source bounded positive
    rw [between_of_count_ne whole]
    omega

theorem between_of_zeros
    (zeros : ∀ source, (raw source).1 = 0)
    (source : Source)
    (ordered : low ≤ high)
    (fits : high < 2 ^ width) :
    (between width raw low high source).1 = low := by
  by_cases whole : high - low + 1 = 2 ^ width
  · rw [between_of_count_eq whole, zeros]
    omega
  · rw [between_of_count_ne whole, belowByRejection_of_zeros _ _ _ zeros, Nat.add_zero]

theorem natBetween_mem_range
    (source : Source)
    (ordered : low ≤ high)
    (fits : high < 2 ^ 64) :
    low ≤ (natBetween low high source).1 ∧ (natBetween low high source).1 ≤ high :=
  between_mem_range source (fun source => (Words.nextLong source).1.toNat_lt) ordered fits

theorem smallBetween_mem_range
    (source : Source)
    (ordered : low ≤ high)
    (fits : high < 2 ^ 32) :
    low ≤ (smallBetween low high source).1 ∧ (smallBetween low high source).1 ≤ high :=
  between_mem_range source (fun source => (Words.nextWord source).1.toNat_lt) ordered fits

end Words

theorem natBetween_zeros
    (ordered : low ≤ high)
    (fits : high < 2 ^ 64) :
    (natBetween low high Zeros.endless).1 = low :=
  between_of_zeros (fun _ => rfl) Zeros.endless ordered fits

end Draw
end Random
end TenantLoad
