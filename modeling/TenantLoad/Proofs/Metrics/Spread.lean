import TenantLoad.Decimal.Binary
import TenantLoad.Proofs.Metrics.Percentile
import TenantLoad.Proofs.Metrics.Permutation
import Mathlib.Algebra.Order.BigOperators.Group.List

/-!
# The spread of a stage

What a summary tells of the lengths of a stage is computed by one rule over any
quantity.  In exact arithmetic its results are in order.  The order of the bits
of floats is the order of their values, so the sorted lengths of a stage are
ascending and the rule applies to them.
-/

namespace TenantLoad

/-! ## Exact values of floats -/

namespace Decimal
namespace Binary

/-- The value of a binary fraction. -/
def toRat (value : Binary) : ℚ := value.significand * 2 ^ value.exponent

/-- The least positive float. -/
def unit : ℚ := 2 ^ (-1074 : Int)

/-- The value of bits without a sign, in least positive floats. -/
def units (magnitude : Nat) : Nat :=
  (if magnitude / 2 ^ 52 = 0 then magnitude % 2 ^ 52 else 2 ^ 52 + magnitude % 2 ^ 52) *
    2 ^ (magnitude / 2 ^ 52 - 1)

/-- The next magnitude has the next fraction or the next exponent. -/
theorem units_le_units_succ (magnitude : Nat) : units magnitude ≤ units (magnitude + 1) := by
  rcases (show ((magnitude + 1) / 2 ^ 52 = magnitude / 2 ^ 52 ∧
        (magnitude + 1) % 2 ^ 52 = magnitude % 2 ^ 52 + 1) ∨
      ((magnitude + 1) / 2 ^ 52 = magnitude / 2 ^ 52 + 1 ∧ (magnitude + 1) % 2 ^ 52 = 0 ∧
        magnitude % 2 ^ 52 = 2 ^ 52 - 1) by omega) with
    ⟨sameExponent, nextFraction⟩ | ⟨nextExponent, noFraction, fullFraction⟩
  · rw [units, units, sameExponent, nextFraction]
    refine Nat.mul_le_mul_right _ ?_
    split_ifs <;> omega
  · rw [units, units, nextExponent, noFraction, fullFraction, if_neg (Nat.succ_ne_zero _)]
    cases magnitude / 2 ^ 52 with
    | zero => decide
    | succ exponent =>
        rw [if_neg (Nat.succ_ne_zero _), Nat.add_sub_cancel, Nat.add_sub_cancel,
          Nat.pow_succ' (n := exponent), ← Nat.mul_assoc]
        exact Nat.mul_le_mul_right _ (by decide)

theorem units_mono : Monotone units := monotone_nat_of_le_succ units_le_units_succ

theorem storedExponent_eq (bits : UInt64) :
    storedExponent bits = bits.toNat % 2 ^ 63 / 2 ^ 52 := by
  have mask : (0x7ff : UInt64).toNat = 2 ^ 11 - 1 := rfl
  have shift : (52 : UInt64).toNat % 64 = 52 := rfl
  rw [storedExponent, UInt64.toNat_and, UInt64.toNat_shiftRight, mask, shift,
    Nat.and_two_pow_sub_one_eq_mod, Nat.shiftRight_eq_div_pow]
  omega

theorem storedFraction_eq (bits : UInt64) :
    storedFraction bits = bits.toNat % 2 ^ 63 % 2 ^ 52 := by
  have mask : (0xfffffffffffff : UInt64).toNat = 2 ^ 52 - 1 := rfl
  rw [storedFraction, UInt64.toNat_and, mask, Nat.and_two_pow_sub_one_eq_mod]
  omega

theorem toRat_ofBits (bits : UInt64) :
    (ofBits bits).toRat = units (bits.toNat % 2 ^ 63) * unit := by
  rw [ofBits, units, ← storedExponent_eq, ← storedFraction_eq]
  split_ifs with subnormal
  · rw [toRat, subnormal, Nat.zero_sub, pow_zero, mul_one, unit]
  · obtain ⟨less, isNext⟩ := Nat.exists_eq_add_one_of_ne_zero subnormal
    have split : ((less + 1 : Nat) : Int) - 1075 = less + -1074 := by push_cast; ring
    rw [toRat, isNext, split, zpow_add₀ two_ne_zero, zpow_natCast, Nat.add_sub_cancel, ← unit]
    push_cast
    ring

theorem toRat_nonneg (value : Binary) : 0 ≤ value.toRat :=
  mul_nonneg (Nat.cast_nonneg _) (zpow_nonneg zero_le_two _)

/-- Without the sign, greater bits are a greater value. -/
theorem toRat_ofBits_le
    {bits other : UInt64}
    (below : bits.toNat % 2 ^ 63 ≤ other.toNat % 2 ^ 63) :
    (ofBits bits).toRat ≤ (ofBits other).toRat := by
  rw [toRat_ofBits, toRat_ofBits]
  exact mul_le_mul_of_nonneg_right (Nat.cast_le.mpr (units_mono below)) (zpow_nonneg zero_le_two _)

end Binary
end Decimal

namespace Metrics

namespace Millis

variable {left right : Millis}

/-- The exact value of a length.  Lengths that are not finite go on with the same rule. -/
def exact (length : Millis) : ℚ :=
  let magnitude := (Decimal.Binary.ofBits length.bits).toRat
  if length.isNegative then -magnitude else magnitude

/-- The total order of lengths is the order of their exact values. -/
theorem exact_le_exact
    (before : left.isBefore right = true) :
    left.exact ≤ right.exact := by
  have leftBound := left.bits.toNat_lt
  have rightBound := right.bits.toNat_lt
  have ordered : left.rank ≤ right.rank := of_decide_eq_true before
  simp only [rank] at ordered
  unfold exact
  split_ifs at ordered ⊢ with leftNegative rightNegative rightNegative
  · simp only [isNegative, decide_eq_true_eq] at leftNegative rightNegative
    exact neg_le_neg (Decimal.Binary.toRat_ofBits_le (by omega))
  · exact (neg_nonpos.mpr (Decimal.Binary.toRat_nonneg _)).trans (Decimal.Binary.toRat_nonneg _)
  · simp only [isNegative, decide_eq_true_eq] at rightNegative
    omega
  · simp only [isNegative, decide_eq_true_eq] at leftNegative rightNegative
    exact Decimal.Binary.toRat_ofBits_le (by omega)

end Millis

/-- What is told of the lengths of a stage. -/
structure Spread (Value : Type) where
  average : Value
  least : Value
  most : Value
  median : Value
  percentile95 : Value

namespace Spread

/-- The spread of values in ascending order; `nothing` stands for what no values have. -/
def ofSorted {Value : Type} [Quantity Value] [OfScientific Value] [Neg Value]
    (nothing : Value) (sorted : List Value) : Spread Value :=
  { average :=
      if sorted.isEmpty then nothing
      else sorted.foldl (fun total value => total + value) (-0.0) / Quantity.ofNat sorted.length
    least := sorted.head?.getD nothing
    most := sorted.getLast?.getD nothing
    median := percentile nothing sorted.toArray 0.5
    percentile95 := percentile nothing sorted.toArray 0.95 }

/-- The extremes enclose the percentiles, which are in order, and the average. -/
structure Ordered (spread : Spread ℚ) : Prop where
  least_le_median : spread.least ≤ spread.median
  median_le_percentile95 : spread.median ≤ spread.percentile95
  percentile95_le_most : spread.percentile95 ≤ spread.most
  least_le_average : spread.least ≤ spread.average
  average_le_most : spread.average ≤ spread.most

variable {x : List ℚ}

theorem ordered_ofSorted
    (filled : x ≠ [])
    (ascending : x.Pairwise (· ≤ ·))
    (nothing : ℚ) :
    (ofSorted nothing x).Ordered := by
  have least : (ofSorted nothing x).least = percentile nothing x.toArray 0 := by
    rw [percentile_of_place_eq filled (place_zero _), List.getD_eq_getElem?_getD,
      ← List.head?_eq_getElem?]
    rfl
  have most : (ofSorted nothing x).most = percentile nothing x.toArray 1 := by
    rw [percentile_of_place_eq filled (place_one _), List.getD_eq_getElem?_getD,
      ← List.getLast?_eq_getElem?]
    rfl
  have isLeast := isLeast_percentile_zero filled ascending nothing
  have isGreatest := isGreatest_percentile_one filled ascending nothing
  rw [← least] at isLeast
  rw [← most] at isGreatest
  have average : (ofSorted nothing x).average = x.sum / x.length := by
    have notEmpty : ¬ x.isEmpty = true := by simpa using filled
    simp only [ofSorted, if_neg notEmpty, List.sum_eq_foldl]
    norm_num
  have positive : (0 : ℚ) < x.length := Nat.cast_pos.mpr (List.length_pos_of_ne_nil filled)
  refine
    { least_le_median := ?_
      median_le_percentile95 := percentile_le_percentile filled ascending nothing (by norm_num)
      percentile95_le_most := ?_
      least_le_average := ?_
      average_le_most := ?_ }
  · rw [least]
    exact percentile_le_percentile filled ascending nothing (by norm_num)
  · rw [most]
    exact percentile_le_percentile filled ascending nothing (by norm_num)
  · rw [average, le_div_iff₀ positive, mul_comm, ← nsmul_eq_mul]
    exact List.card_nsmul_le_sum x _ fun value isValue => isLeast.2 isValue
  · rw [average, div_le_iff₀ positive, mul_comm, ← nsmul_eq_mul]
    exact List.sum_le_card_nsmul x _ fun value isValue => isGreatest.2 isValue

end Spread

namespace StageSummary

variable {entries : List Entry}

/-- What a summary tells of the lengths of its stage. -/
def spread (summary : StageSummary) : Spread Float :=
  { average := summary.average
    least := summary.least
    most := summary.most
    median := summary.median
    percentile95 := summary.percentile95 }

/-- A summary is the rule of spreads on floats. -/
theorem spread_ofEntries (entries : List Entry) :
    (ofEntries entries).spread =
      Spread.ofSorted notANumber ((sortedLengths entries).map Millis.toFloat) := rfl

theorem pairwise_exact_sortedLengths (entries : List Entry) :
    ((sortedLengths entries).map Millis.exact).Pairwise (· ≤ ·) := by
  rw [List.pairwise_map]
  exact (List.pairwise_mergeSort Millis.isBefore_trans Millis.isBefore_total _).imp
    Millis.exact_le_exact

theorem exact_sortedLengths_ne_nil
    (filled : entries ≠ []) :
    (sortedLengths entries).map Millis.exact ≠ [] := by
  refine List.ne_nil_of_length_pos ?_
  rw [List.length_map, sortedLengths, List.length_mergeSort, List.length_map]
  exact List.length_pos_of_ne_nil filled

end StageSummary

/-- In exact arithmetic the percentiles of values in ascending order are their interpolated order
statistics: they read values that are there, begin with the minimum, end with the maximum, stay
between their two neighbours and never fall, neither for a greater part nor for raised values,
whether these are in order or have to be sorted again.  So what the rule of summaries tells of a
stage with entries is in order. -/
theorem percentiles_are_order_statistics
    {x : List ℚ}
    (filled : x ≠ [])
    (ascending : x.Pairwise (· ≤ ·))
    (nothing : ℚ) :
    (∀ q, ⌈place x.length q⌉₊ < x.length ∧
      percentile? x.toArray q = some (percentile nothing x.toArray q) ∧
      percentile nothing x.toArray q =
        interpolate (fun index => x.getD index nothing) (place x.length q)) ∧
    IsLeast { value | value ∈ x } (percentile nothing x.toArray 0) ∧
    IsGreatest { value | value ∈ x } (percentile nothing x.toArray 1) ∧
    (∀ q, percentile nothing x.toArray q ∈ Set.Icc (x.getD ⌊place x.length q⌋₊ nothing)
      (x.getD ⌈place x.length q⌉₊ nothing)) ∧
    (∀ q next, q ≤ next → percentile nothing x.toArray q ≤ percentile nothing x.toArray next) ∧
    (∀ half, x.length = 2 * half + 1 →
      x[half]? = some (percentile nothing x.toArray (1 / 2))) ∧
    (∀ y q, List.Forall₂ (· ≤ ·) x y →
      percentile nothing x.toArray q ≤ percentile nothing y.toArray q ∧
        ∀ z : List ℚ, z.Perm y → z.Pairwise (· ≤ ·) →
          percentile nothing x.toArray q ≤ percentile nothing z.toArray q) ∧
    (Spread.ofSorted nothing x).Ordered ∧
    ∀ entries : List Entry, entries ≠ [] →
      (StageSummary.ofEntries entries).spread = Spread.ofSorted notANumber
        ((StageSummary.sortedLengths entries).map Millis.toFloat) ∧
      (Spread.ofSorted nothing
        ((StageSummary.sortedLengths entries).map Millis.exact)).Ordered := by
  have positive := List.length_pos_of_ne_nil filled
  refine ⟨fun q => ⟨ceil_place_lt positive q, percentile?_eq_some nothing filled q,
      percentile_eq_interpolate nothing filled q⟩,
    isLeast_percentile_zero filled ascending nothing,
    isGreatest_percentile_one filled ascending nothing,
    percentile_mem_Icc filled ascending nothing,
    fun _ _ => percentile_le_percentile filled ascending nothing, ?middle, ?raised,
    Spread.ordered_ofSorted filled ascending nothing, ?summaries⟩
  case middle =>
    intro half odd
    have whole : place x.length (1 / 2) = half := odd ▸ place_half half
    have inside : half < x.length := by omega
    rw [percentile_of_place_eq filled whole, List.getD_eq_getElem _ _ inside,
      List.getElem?_eq_getElem inside]
  case raised =>
    intro y q raised
    refine ⟨?_, ?_⟩
    · exact percentile_le_percentile_of_getElem filled raised.length_eq
        (fun index inside insideToo => raised.get inside insideToo) nothing q
    · intro z permuted ascendingAgain
      exact percentile_le_percentile_of_getElem filled
        (raised.length_eq.trans permuted.length_eq.symm)
        (fun index => getElem_le_getElem_of_raised ascending raised permuted ascendingAgain)
        nothing q
  case summaries =>
    intro entries isFilled
    exact ⟨StageSummary.spread_ofEntries entries,
      Spread.ordered_ofSorted (StageSummary.exact_sortedLengths_ne_nil isFilled)
        (StageSummary.pairwise_exact_sortedLengths entries) nothing⟩

/-- Of three values the percentile in the middle is the second one, and raising the first one above
the others does not lower it. -/
theorem percentiles_are_order_statistics_of_three :
    [(1 : ℚ), 2, 4][1]? = some (percentile 0 #[(1 : ℚ), 2, 4] (1 / 2)) ∧
      percentile 0 #[(1 : ℚ), 2, 4] (1 / 2) ≤ percentile 0 #[(2 : ℚ), 4, 9] (1 / 2) := by
  obtain ⟨_, _, _, _, _, middle, raised, _⟩ :=
    percentiles_are_order_statistics (x := [1, 2, 4]) (by simp) (by norm_num) 0
  refine ⟨middle 1 rfl, (raised [9, 2, 4] _ ?_).2 [2, 4, 9] ?_ ?_⟩
  · norm_num
  · decide
  · norm_num

end Metrics
end TenantLoad
