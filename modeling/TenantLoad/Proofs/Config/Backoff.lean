import TenantLoad.Proofs.Config.Validation
import TenantLoad.Proofs.Retry.Window

/-!
# Backoff by accepted rules

A delay is meant to lie between the bounds that it is drawn from.  It does so
from every source exactly if the bounds agree, or the lower one is a whole
number of microseconds and does not exceed the upper one cut to 64 bits.  Rules
are accepted however large their bounds are, as long as these are in order, so
some are accepted that leave nothing to draw from.
-/

namespace TenantLoad
namespace Retry
namespace JitterWindow

variable {first second : Duration}

theorem between_of_le
    (ordered : first ≤ second) :
    between first second = ⟨first, second, ordered⟩ :=
  dif_pos ordered

/-- Bounds that are given the other way round are swapped. -/
theorem between_of_ge
    (ordered : first ≤ second) :
    between second first = ⟨first, second, ordered⟩ := by
  by_cases other : second ≤ first
  · obtain rfl := Duration.le_antisymm ordered other
    exact between_of_le ordered
  · exact dif_neg other

end JitterWindow
end Retry

namespace Config

open Retry (JitterWindow)

variable {rules : RetryRules}

/-- Accepted rules have their jitter bounds in order. -/
theorem RetryRules.jitter_ordered_of_validate
    (isValid : rules.validate = .ok ()) :
    rules.jitterMinMs.toNat ≤ rules.jitterMaxMs.toNat := by
  simp only [RetryRules.validate, Except.bind_eq_ok_iff] at isValid
  obtain ⟨⟨⟩, -, ⟨⟩, bounds, -⟩ := isValid
  have inOrder := Check.ordered_eq_ok_iff.mp bounds
  simpa [Bounded.exceeds, UInt64.lt_iff_toNat_lt] using inOrder

/-- Rules with bounds in order have the window between them. -/
theorem RetryRules.window_eq
    (inOrder : rules.jitterMinMs.toNat ≤ rules.jitterMaxMs.toNat) :
    ∃ ordered, rules.policy.window =
      ⟨.ofMilliseconds rules.jitterMinMs.toNat, .ofMilliseconds rules.jitterMaxMs.toNat, ordered⟩ :=
  ⟨Nat.mul_le_mul_right 1000000 inOrder, JitterWindow.between_of_le _⟩

/-- From bounds in either order a delay can be drawn exactly if they agree or
their cut microseconds are in order, and all delays lie between them exactly if
they agree or the lower one is a whole number of microseconds up to the cut
upper one.  Of the rules that are accepted, those keep their delays between
their bounds whose lower bound does not exceed the upper one cut to 64 bits of
microseconds. -/
theorem backoff_keeps_to_its_bounds
    (first second : Duration)
    (rules : RetryRules) :
    (first ≤ second →
      JitterWindow.between second first = JitterWindow.between first second ∧
        (∀ (Source : Type) [Random.Words Source] (generator : Source),
          ((JitterWindow.between first second).draw generator).isSome = true ↔
            first = second ∨ first.cutMicroseconds ≤ second.cutMicroseconds) ∧
        ((JitterWindow.between first second).Keeps ↔
          first = second ∨
            .ofMicroseconds first.microseconds = first ∧
              first.microseconds ≤ second.cutMicroseconds)) ∧
      (rules.validate = .ok () →
        (rules.policy.window.Keeps ↔
          rules.jitterMinMs = rules.jitterMaxMs ∨
            rules.jitterMinMs.toNat * 1000 ≤ rules.jitterMaxMs.toNat * 1000 % 2 ^ 64)) := by
  constructor
  · intro ordered
    rw [JitterWindow.between_of_ge ordered, JitterWindow.between_of_le ordered]
    exact ⟨rfl, fun _ _ _ => JitterWindow.isSome_draw_iff, JitterWindow.keeps_iff⟩
  · intro isValid
    obtain ⟨ordered, window⟩ :=
      RetryRules.window_eq (RetryRules.jitter_ordered_of_validate isValid)
    rw [window, JitterWindow.keeps_iff, Duration.ofMilliseconds_inj, UInt64.toNat_inj,
      Duration.microseconds_ofMilliseconds, Duration.ofMicroseconds_mul_eq_ofMilliseconds,
      Duration.cutMicroseconds, Duration.microseconds_ofMilliseconds, eq_self, true_and]

/-- The rules that are used unless others are chosen, and bounds that are given
the other way round. -/
theorem backoff_keeps_to_its_bounds_by_default :
    let rules : RetryRules := {}
    rules.validate = .ok () ∧ rules.policy.window.Keeps ∧
      (JitterWindow.between (.ofMicroseconds 9) (.ofMicroseconds 4)).Keeps := by
  intro rules
  have isValid : rules.validate = .ok () := by decide +kernel
  have ordered : Duration.ofMicroseconds 4 ≤ .ofMicroseconds 9 := by decide
  obtain ⟨pair, accepted⟩ :=
    backoff_keeps_to_its_bounds (.ofMicroseconds 4) (.ofMicroseconds 9) rules
  obtain ⟨swapped, _, keeps⟩ := pair ordered
  rw [swapped]
  exact ⟨isValid, (accepted isValid).mpr (Or.inr (by decide)), keeps.mpr (Or.inr (by decide))⟩

/-- Two bounds next to each other on either side of 64 bits of microseconds are
accepted and leave nothing to draw from, and two bounds below one microsecond
give a delay below both. -/
theorem backoff_leaves_its_bounds :
    let rules : RetryRules :=
      { jitterMinMs := 18446744073709551, jitterMaxMs := 18446744073709552 }
    rules.validate = .ok () ∧
      (∀ (Source : Type) [Random.Words Source] (generator : Source),
        rules.policy.window.draw generator = none) ∧
      ∀ (Source : Type) [Random.Words Source] (generator : Source),
        ∃ after, (JitterWindow.between ⟨1⟩ ⟨2⟩).draw generator = some (.zero, after) := by
  intro rules
  refine ⟨by decide +kernel, ?_, ?_⟩
  · intro Source _ generator
    exact JitterWindow.draw_of_cut_lt (by decide) (by decide) generator
  · intro Source _ generator
    have drawable : ((JitterWindow.between ⟨1⟩ ⟨2⟩).draw generator).isSome = true :=
      JitterWindow.isSome_draw_iff.mpr (Or.inr (by decide))
    obtain ⟨⟨delay, after⟩, drawn⟩ := Option.isSome_iff_exists.mp drawable
    rcases JitterWindow.of_draw_eq_some drawn with ⟨equal, _⟩ | ⟨count, rfl, _, atMost⟩
    · exact absurd equal (by decide)
    · obtain rfl := Nat.le_zero.mp atMost
      exact ⟨after, drawn⟩

end Config
end TenantLoad
