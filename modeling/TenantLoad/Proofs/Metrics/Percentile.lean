import TenantLoad.Metrics.Percentile
import TenantLoad.Proofs.Quantity
import Mathlib.Algebra.Order.Ring.Star
import Mathlib.Data.List.GetD
import Mathlib.Data.List.Pairwise
import Mathlib.Data.Rat.Star

/-!
# Percentiles in exact arithmetic

A percentile of exact values is the broken line through the order statistics,
taken at `(n - 1) * q`.  The line rises within each of its pieces and agrees
with its neighbours where they meet, so it rises as a whole, also across whole
places, where the percentile takes another branch.
-/

namespace TenantLoad
namespace Metrics

section Reading

variable {Value : Type} [Quantity Value]

/-- The percentile `q` of values in ascending order, if all that is read for it
is there. -/
def percentile? (sorted : Array Value) (q : Value) : Option Value :=
  let k := Quantity.ofNat (sorted.size - 1) * Quantity.clamp q
  let low := Quantity.floor k
  let high := Quantity.ceil k
  if Quantity.same low high then
    sorted[Quantity.toNat k]?
  else do
    let lower ← sorted[Quantity.toNat low]?
    let upper ← sorted[Quantity.toNat high]?
    some (lower * (high - k) + upper * (k - low))

end Reading

/-! ## Broken lines -/

/-- The broken line through the values at whole places. -/
def interpolate (values : Nat → ℚ) (place : ℚ) : ℚ :=
  values ⌊place⌋₊ + (values ⌈place⌉₊ - values ⌊place⌋₊) * (place - ⌊place⌋₊)

section Interpolate

variable {values others : Nat → ℚ} {count : Nat} {place next : ℚ}

@[simp] theorem interpolate_natCast (values : Nat → ℚ) (index : Nat) :
    interpolate values index = values index := by
  simp [interpolate]

/-- The line lies between the values at the ends of a piece. -/
theorem interpolate_mem_Icc
    (ascending : MonotoneOn values (Set.Iio count))
    (nonneg : 0 ≤ place)
    (inside : ⌈place⌉₊ < count) :
    interpolate values place ∈ Set.Icc (values ⌊place⌋₊) (values ⌈place⌉₊) := by
  have floor_le_ceil := Nat.floor_le_ceil place
  have rise : 0 ≤ values ⌈place⌉₊ - values ⌊place⌋₊ :=
    sub_nonneg.mpr (ascending (floor_le_ceil.trans_lt inside) inside floor_le_ceil)
  have part_nonneg : 0 ≤ place - ⌊place⌋₊ := sub_nonneg.mpr (Nat.floor_le nonneg)
  have part_le_one : place - ⌊place⌋₊ ≤ 1 := by linarith [Nat.lt_floor_add_one place]
  constructor
  · exact le_add_of_nonneg_right (mul_nonneg rise part_nonneg)
  · have := mul_le_of_le_one_right rise part_le_one
    rw [interpolate]
    linarith

theorem interpolate_le_interpolate_of_le
    (ascending : MonotoneOn values (Set.Iio count))
    (nonneg : 0 ≤ place)
    (ahead : place ≤ next)
    (inside : ⌈next⌉₊ < count) :
    interpolate values place ≤ interpolate values next := by
  have floors : ⌊place⌋₊ ≤ ⌊next⌋₊ := Nat.floor_mono ahead
  have ceils : ⌈place⌉₊ ≤ ⌈next⌉₊ := Nat.ceil_mono ahead
  have within := interpolate_mem_Icc ascending nonneg (ceils.trans_lt inside)
  have withinNext := interpolate_mem_Icc ascending (nonneg.trans ahead) inside
  rcases floors.eq_or_lt with samePiece | laterPiece
  · -- Within one piece both the value at its end and the part of it grow.
    have rise : 0 ≤ values ⌈next⌉₊ - values ⌊next⌋₊ :=
      sub_nonneg.mpr (withinNext.1.trans withinNext.2)
    have ends : values ⌈place⌉₊ ≤ values ⌈next⌉₊ :=
      ascending (ceils.trans_lt inside) inside ceils
    have part_nonneg : 0 ≤ place - ⌊place⌋₊ := sub_nonneg.mpr (Nat.floor_le nonneg)
    rw [interpolate, interpolate, ← samePiece] at *
    gcongr
  · -- A later piece starts no lower than this one ends.
    have apart : ⌈place⌉₊ ≤ ⌊next⌋₊ := (Nat.ceil_le_floor_add_one place).trans laterPiece
    calc interpolate values place
        ≤ values ⌈place⌉₊ := within.2
      _ ≤ values ⌊next⌋₊ := ascending (ceils.trans_lt inside)
          ((Nat.floor_le_ceil next).trans_lt inside) apart
      _ ≤ interpolate values next := withinNext.1

theorem interpolate_le_interpolate_of_values
    (below : ∀ index < count, values index ≤ others index)
    (nonneg : 0 ≤ place)
    (inside : ⌈place⌉₊ < count) :
    interpolate values place ≤ interpolate others place := by
  have part_nonneg : 0 ≤ place - ⌊place⌋₊ := sub_nonneg.mpr (Nat.floor_le nonneg)
  have rest_nonneg : 0 ≤ 1 - (place - ⌊place⌋₊) := by linarith [Nat.lt_floor_add_one place]
  have low := below ⌊place⌋₊ ((Nat.floor_le_ceil place).trans_lt inside)
  have high := below ⌈place⌉₊ inside
  have weighted (values : Nat → ℚ) : interpolate values place =
      values ⌊place⌋₊ * (1 - (place - ⌊place⌋₊)) + values ⌈place⌉₊ * (place - ⌊place⌋₊) := by
    rw [interpolate]
    ring
  rw [weighted, weighted]
  gcongr

end Interpolate

/-! ## Places -/

/-- Where the percentile `q` of so many values lies among them. -/
def place (count : Nat) (q : ℚ) : ℚ := ((count - 1 : Nat) : ℚ) * Quantity.clamp q

section Place

variable {count : Nat} {q next : ℚ}

theorem place_nonneg (count : Nat) (q : ℚ) : 0 ≤ place count q :=
  mul_nonneg (Nat.cast_nonneg _) (Quantity.clamp_nonneg q)

theorem ceil_place_lt
    (positive : 0 < count)
    (q : ℚ) :
    ⌈place count q⌉₊ < count := by
  have : ⌈place count q⌉₊ ≤ count - 1 :=
    Nat.ceil_le.mpr (mul_le_of_le_one_right (Nat.cast_nonneg _) (Quantity.clamp_le_one q))
  omega

theorem place_le_place
    (count : Nat)
    (ahead : q ≤ next) :
    place count q ≤ place count next :=
  mul_le_mul_of_nonneg_left (Quantity.clamp_le_clamp ahead) (Nat.cast_nonneg _)

@[simp] theorem place_zero (count : Nat) : place count 0 = (0 : Nat) := by
  rw [place, Quantity.clamp_of_mem le_rfl zero_le_one, mul_zero, Nat.cast_zero]

@[simp] theorem place_one (count : Nat) : place count 1 = (count - 1 : Nat) := by
  rw [place, Quantity.clamp_of_mem zero_le_one le_rfl, mul_one]

/-- The middle of an odd number of values is a whole place. -/
theorem place_half (half : Nat) : place (2 * half + 1) (1 / 2) = half := by
  rw [place, Quantity.clamp_of_mem (by norm_num) (by norm_num), Nat.add_sub_cancel]
  push_cast
  ring

end Place

/-! ## Percentiles -/

section Percentile

variable {x y z : List ℚ} {nothing q next : ℚ}

/-- Both branches of a percentile are the broken line. -/
theorem interpolate_eq_ite
    {place : ℚ}
    (values : Nat → ℚ)
    (nonneg : 0 ≤ place) :
    interpolate values place =
      if Quantity.same (Quantity.floor place) (Quantity.ceil place) then
        values (Quantity.toNat place)
      else
        values (Quantity.toNat (Quantity.floor place)) * (Quantity.ceil place - place) +
          values (Quantity.toNat (Quantity.ceil place)) * (place - Quantity.floor place) := by
  simp only [Quantity.floor_of_nonneg nonneg, Quantity.ceil_of_nonneg nonneg, Quantity.same_rat,
    Nat.cast_inj, Quantity.toNat_rat, Nat.floor_natCast]
  split_ifs with whole
  · rw [interpolate, ← whole, sub_self, zero_mul, add_zero]
  · have next : ⌈place⌉₊ = ⌊place⌋₊ + 1 := by
      have := Nat.floor_le_ceil place
      have := Nat.ceil_le_floor_add_one place
      omega
    rw [interpolate, next]
    push_cast
    ring

/-- A percentile is the broken line through the order statistics. -/
theorem percentile_eq_interpolate
    (nothing : ℚ)
    (filled : x ≠ [])
    (q : ℚ) :
    percentile nothing x.toArray q =
      interpolate (fun index => x.getD index nothing) (place x.length q) := by
  rw [interpolate_eq_ite _ (place_nonneg ..), percentile, if_neg (by simpa using filled)]
  simp [place]

example : percentile 0 #[(1 : ℚ), 2, 4] (3 / 4) = 3 := by decide +kernel

/-- What a percentile reads is there. -/
theorem percentile?_eq_some
    (nothing : ℚ)
    (filled : x ≠ [])
    (q : ℚ) :
    percentile? x.toArray q = some (percentile nothing x.toArray q) := by
  have read (index : Nat) (inside : index < x.length) :
      x.toArray[index]? = some (x.toArray.getD index nothing) := by
    simp [inside]
  have ceilInside : ⌈place x.length q⌉₊ < x.length :=
    ceil_place_lt (List.length_pos_of_ne_nil filled) q
  have floorInside : ⌊place x.length q⌋₊ < x.length := (Nat.floor_le_ceil _).trans_lt ceilInside
  have atPlace : (Quantity.ofNat (x.toArray.size - 1) : ℚ) * Quantity.clamp q =
    place x.length q := rfl
  have notEmpty : ¬ x.toArray.isEmpty = true := by simpa using filled
  rw [percentile?, percentile, if_neg notEmpty]
  simp only [atPlace, Quantity.floor_of_nonneg (place_nonneg ..),
    Quantity.ceil_of_nonneg (place_nonneg ..), Quantity.toNat_rat, Nat.floor_natCast,
    read _ floorInside, read _ ceilInside]
  split_ifs <;> rfl

/-! ### Order statistics -/

theorem getElem_le_getElem
    (ascending : x.Pairwise (· ≤ ·))
    {earlier later : Nat}
    (ordered : earlier ≤ later)
    (inside : later < x.length) :
    x[earlier] ≤ x[later] :=
  ascending.rel_get_of_le (a := ⟨earlier, ordered.trans_lt inside⟩) (b := ⟨later, inside⟩) ordered

theorem monotoneOn_getD
    (ascending : x.Pairwise (· ≤ ·))
    (nothing : ℚ) :
    MonotoneOn (fun index => x.getD index nothing) (Set.Iio x.length) := by
  intro earlier insideEarlier later inside ordered
  rw [Set.mem_Iio] at inside insideEarlier
  simp only [List.getD_eq_getElem, inside, insideEarlier]
  exact getElem_le_getElem ascending ordered inside

/-- Values that are raised one by one and sorted again have no lower order statistics. -/
theorem getElem_le_getElem_of_raised
    (ascending : x.Pairwise (· ≤ ·))
    (raised : List.Forall₂ (· ≤ ·) x y)
    (permuted : z.Perm y)
    (ascendingAgain : z.Pairwise (· ≤ ·))
    {index : Nat}
    (inside : index < x.length)
    (insideAgain : index < z.length) :
    x[index] ≤ z[index] := by
  by_contra lower
  rw [not_le] at lower
  -- What is below the value here is more than `index` of the sorted values,
  have many : index + 1 ≤ z.countP (· < x[index]) := by
    have early : (z.take (index + 1)).countP (· < x[index]) = (z.take (index + 1)).length := by
      rw [List.countP_eq_length]
      intro value isEarly
      obtain ⟨place, bound, rfl⟩ := List.mem_take_iff_getElem.mp isEarly
      exact decide_eq_true
        ((getElem_le_getElem ascendingAgain (by omega) insideAgain).trans_lt lower)
    have sub := (List.take_sublist (index + 1) z).countP_le (p := (· < x[index]))
    rw [early, List.length_take] at sub
    omega
  -- but of the raised ones only those before it.
  have few : y.countP (· < x[index]) ≤ index := by
    have late : (y.drop index).countP (· < x[index]) = 0 := by
      rw [List.countP_eq_zero]
      intro value isLate
      obtain ⟨place, bound, rfl⟩ := List.mem_drop_iff_getElem.mp isLate
      have insideLater : index + place < x.length := by rwa [raised.length_eq, Nat.add_comm]
      have ordered := getElem_le_getElem ascending (Nat.le_add_right index place) insideLater
      simpa using ordered.trans (raised.get insideLater (by omega))
    rw [← List.take_append_drop index y, List.countP_append, late, Nat.add_zero]
    exact List.countP_le_length.trans (List.length_take_le ..)
  rw [permuted.countP_eq] at many
  omega

/-- The percentile of a whole place is the order statistic there. -/
theorem percentile_of_place_eq
    (filled : x ≠ [])
    {index : Nat}
    (whole : place x.length q = index) :
    percentile nothing x.toArray q = x.getD index nothing := by
  rw [percentile_eq_interpolate nothing filled, whole, interpolate_natCast]

theorem percentile_mem_Icc
    (filled : x ≠ [])
    (ascending : x.Pairwise (· ≤ ·))
    (nothing q : ℚ) :
    percentile nothing x.toArray q ∈ Set.Icc (x.getD ⌊place x.length q⌋₊ nothing)
      (x.getD ⌈place x.length q⌉₊ nothing) := by
  rw [percentile_eq_interpolate nothing filled]
  exact interpolate_mem_Icc (monotoneOn_getD ascending nothing) (place_nonneg ..)
    (ceil_place_lt (List.length_pos_of_ne_nil filled) q)

theorem percentile_le_percentile
    (filled : x ≠ [])
    (ascending : x.Pairwise (· ≤ ·))
    (nothing : ℚ)
    (ahead : q ≤ next) :
    percentile nothing x.toArray q ≤ percentile nothing x.toArray next := by
  rw [percentile_eq_interpolate nothing filled, percentile_eq_interpolate nothing filled]
  exact interpolate_le_interpolate_of_le (monotoneOn_getD ascending nothing) (place_nonneg ..)
    (place_le_place _ ahead) (ceil_place_lt (List.length_pos_of_ne_nil filled) next)

/-- Raised values have no lower percentile. -/
theorem percentile_le_percentile_of_getElem
    (filled : x ≠ [])
    (sameLength : x.length = y.length)
    (below : ∀ index (inside : index < x.length) (insideToo : index < y.length),
      x[index] ≤ y[index])
    (nothing q : ℚ) :
    percentile nothing x.toArray q ≤ percentile nothing y.toArray q := by
  have positive := List.length_pos_of_ne_nil filled
  have filledToo : y ≠ [] := List.ne_nil_of_length_pos (sameLength ▸ positive)
  rw [percentile_eq_interpolate nothing filled, percentile_eq_interpolate nothing filledToo,
    ← sameLength]
  refine interpolate_le_interpolate_of_values ?_ (place_nonneg ..) (ceil_place_lt positive q)
  intro index inside
  have insideToo : index < y.length := sameLength ▸ inside
  simp only [List.getD_eq_getElem, inside, insideToo]
  exact below index inside insideToo

/-- The percentile of nothing is the minimum. -/
theorem isLeast_percentile_zero
    (filled : x ≠ [])
    (ascending : x.Pairwise (· ≤ ·))
    (nothing : ℚ) :
    IsLeast { value | value ∈ x } (percentile nothing x.toArray 0) := by
  have positive := List.length_pos_of_ne_nil filled
  rw [percentile_of_place_eq filled (place_zero _), List.getD_eq_getElem _ _ positive]
  refine ⟨List.getElem_mem _, ?_⟩
  intro value isValue
  obtain ⟨index, inside, rfl⟩ := List.mem_iff_getElem.mp isValue
  exact getElem_le_getElem ascending (Nat.zero_le _) inside

/-- The percentile of everything is the maximum. -/
theorem isGreatest_percentile_one
    (filled : x ≠ [])
    (ascending : x.Pairwise (· ≤ ·))
    (nothing : ℚ) :
    IsGreatest { value | value ∈ x } (percentile nothing x.toArray 1) := by
  have last : x.length - 1 < x.length :=
    Nat.sub_one_lt (List.length_pos_of_ne_nil filled).ne'
  rw [percentile_of_place_eq filled (place_one _), List.getD_eq_getElem _ _ last]
  refine ⟨List.getElem_mem _, ?_⟩
  intro value isValue
  obtain ⟨index, inside, rfl⟩ := List.mem_iff_getElem.mp isValue
  exact getElem_le_getElem ascending (by omega) last

end Percentile

end Metrics
end TenantLoad
