import TenantLoad.Json.Basic

/-!
# Measured calls

An entry tells how long one call took, the status of its answer and whether
it succeeded.  The length is kept by the bits of its float, which tell apart
values that compare as equal or not at all.
-/

namespace TenantLoad
namespace Metrics

/-- A length in milliseconds, by the bits of a float. -/
structure Millis where
  bits : UInt64
  deriving Repr, DecidableEq

namespace Millis

/-- The length as a float. -/
def toFloat (length : Millis) : Float := Float.ofBits length.bits

/-- Whether the sign bit is set. -/
def isNegative (length : Millis) : Bool := decide (0x8000000000000000 ≤ length.bits.toNat)

/-- The place of a length in the total order of floats: negative NaNs,
negative values, the zeros, positive values, positive NaNs. -/
def rank (length : Millis) : Int :=
  if length.isNegative then 0x7FFFFFFFFFFFFFFF - (length.bits.toNat : Int) else length.bits.toNat

/-- The total order of floats. -/
def isBefore (left right : Millis) : Bool := decide (left.rank ≤ right.rank)

/-- Lengths of equal rank have equal bits. -/
theorem rank_injective {left right : Millis} (same : left.rank = right.rank) : left = right := by
  obtain ⟨left⟩ := left
  obtain ⟨right⟩ := right
  have leftBound := left.toNat_lt
  have rightBound := right.toNat_lt
  simp only [rank, isNegative, decide_eq_true_eq] at same
  congr 1
  apply UInt64.toNat_inj.mp
  split at same <;> split at same <;> omega

end Millis

/-- One measured call. -/
structure Entry where
  duration : Millis
  status : Option Nat
  ok : Bool
  /-- Further attributes, in ascending order of their names. -/
  extra : List (String × Json)

namespace Entry

/-- Set an attribute of an entry. -/
def withExtra (entry : Entry) (name : String) (value : Json) : Entry :=
  { entry with extra := Json.insertMember name value entry.extra }

/-- The written form of an entry: attributes are left out when there are
none. -/
def toJson (entry : Entry) : Json :=
  .object
    ([("duration_ms", .real entry.duration.toFloat),
      ("status_code", Json.optional Json.natural entry.status),
      ("ok", .boolean entry.ok)] ++
      if entry.extra.isEmpty then [] else [("extra", .object entry.extra)])

end Entry
end Metrics
end TenantLoad
