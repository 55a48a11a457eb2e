import TenantLoad.Proofs.Random.Range
import TenantLoad.Retry.Jitter

/-!
# Delays out of a window

A window draws its own bound when its bounds agree, and otherwise a whole
number of microseconds between its bounds, each cut to 64 bits; it draws
nothing when the cut puts them out of order.  So a bound of 64 bits or more
either leaves nothing to draw from or takes the delays out of the window.
`draws` are the delays that a retry loop draws one after the other.
-/

namespace TenantLoad

/-- The whole microseconds of a duration, cut to 64 bits. -/
def Duration.cutMicroseconds (duration : Duration) : Nat := duration.microseconds % 2 ^ 64

theorem Duration.cutMicroseconds_of_lt
    {duration : Duration}
    (fits : duration.microseconds < 2 ^ 64) :
    duration.cutMicroseconds = duration.microseconds :=
  Nat.mod_eq_of_lt fits

namespace Retry
namespace JitterWindow

variable {Source : Type} [Random.Words Source] {window : JitterWindow}
  {generator after : Source} {delay : Duration}

/-! ## One delay -/

/-- Equal bounds draw nothing. -/
theorem draw_of_eq
    (equal : window.least = window.most)
    (generator : Source) :
    window.draw generator = some (window.least, generator) :=
  if_pos equal

/-- Bounds that the cut puts out of order leave nothing to draw from. -/
theorem draw_of_cut_lt
    (different : window.least ≠ window.most)
    (crossed : window.most.cutMicroseconds < window.least.cutMicroseconds)
    (generator : Source) :
    window.draw generator = Option.none := by
  rw [draw, if_neg different]
  exact if_pos crossed

/-- Bounds that are in order after the cut have the delay between them. -/
theorem draw_of_cut_le
    (different : window.least ≠ window.most)
    (inOrder : window.least.cutMicroseconds ≤ window.most.cutMicroseconds)
    (generator : Source) :
    window.draw generator =
      let drawn := Random.Draw.natBetween window.least.cutMicroseconds
        window.most.cutMicroseconds generator
      some (.ofMicroseconds drawn.1, drawn.2) := by
  rw [draw, if_neg different]
  exact if_neg (Nat.not_lt.mpr inOrder)

theorem isSome_draw_iff :
    (window.draw generator).isSome = true ↔
      window.least = window.most ∨
        window.least.cutMicroseconds ≤ window.most.cutMicroseconds := by
  by_cases equal : window.least = window.most
  · rw [draw_of_eq equal]
    exact ⟨fun _ => Or.inl equal, fun _ => rfl⟩
  · rw [or_iff_right equal]
    by_cases inOrder : window.least.cutMicroseconds ≤ window.most.cutMicroseconds
    · rw [draw_of_cut_le equal inOrder]
      simp only [Option.isSome_some, inOrder]
    · rw [draw_of_cut_lt equal (Nat.lt_of_not_le inOrder)]
      simp only [Option.isSome_none, Bool.false_eq_true, inOrder]

/-- Whether a window can be drawn from does not depend on the source. -/
theorem isSome_draw_of_isSome_draw
    (drawable : (window.draw generator).isSome = true)
    (other : Source) :
    (window.draw other).isSome = true :=
  isSome_draw_iff.mpr (isSome_draw_iff.mp drawable)

/-- A delay is the bound of a window whose bounds agree, or lies between the
cut bounds. -/
theorem of_draw_eq_some
    (drawn : window.draw generator = some (delay, after)) :
    window.least = window.most ∧ delay = window.least ∨
      ∃ count, delay = .ofMicroseconds count ∧
        window.least.cutMicroseconds ≤ count ∧ count ≤ window.most.cutMicroseconds := by
  by_cases equal : window.least = window.most
  · rw [draw_of_eq equal] at drawn
    cases drawn
    exact Or.inl ⟨equal, rfl⟩
  · by_cases inOrder : window.least.cutMicroseconds ≤ window.most.cutMicroseconds
    · rw [draw_of_cut_le equal inOrder] at drawn
      cases drawn
      exact Or.inr ⟨_, rfl, Random.Draw.natBetween_mem_range generator inOrder
        (Nat.mod_lt _ (Nat.two_pow_pos 64))⟩
    · rw [draw_of_cut_lt equal (Nat.lt_of_not_le inOrder)] at drawn
      cases drawn

/-- What is drawn lies in the window if its lower bound is a whole number of
microseconds that fits in 64 bits. -/
theorem mem_of_draw
    (whole : .ofMicroseconds window.least.microseconds = window.least)
    (fits : window.least.microseconds < 2 ^ 64)
    (drawn : window.draw generator = some (delay, after)) :
    window.least ≤ delay ∧ delay ≤ window.most := by
  rcases of_draw_eq_some drawn with ⟨_, rfl⟩ | ⟨count, rfl, lower, upper⟩
  · exact ⟨Nat.le_refl _, window.ordered⟩
  · rw [Duration.cutMicroseconds_of_lt fits] at lower
    constructor
    · rw [← whole, Duration.ofMicroseconds_le_iff, Duration.microseconds_ofMicroseconds]
      exact lower
    · rw [Duration.ofMicroseconds_le_iff]
      exact Nat.le_trans upper (Nat.mod_le _ _)

/-! ## Windows that keep their delays -/

/-- Whatever the source, a delay can be drawn and lies in the window. -/
def Keeps (window : JitterWindow) : Prop :=
  ∀ (Source : Type) [Random.Words Source] (generator : Source),
    ∃ delay after, window.draw generator = some (delay, after) ∧
      window.least ≤ delay ∧ delay ≤ window.most

/-- A source of zeros draws the cut lower bound. -/
theorem of_draw_zeros_eq_some
    {after : Random.Zeros}
    (different : window.least ≠ window.most)
    (inOrder : window.least.cutMicroseconds ≤ window.most.cutMicroseconds)
    (drawn : window.draw Random.Zeros.endless = some (delay, after)) :
    delay = .ofMicroseconds window.least.cutMicroseconds := by
  rw [draw_of_cut_le different inOrder] at drawn
  cases drawn
  rw [Random.Draw.natBetween_zeros inOrder (Nat.mod_lt _ (Nat.two_pow_pos 64))]

/-- Only a window of equal bounds keeps all its delays, or one whose lower bound
is a whole number of microseconds up to the cut upper bound. -/
theorem keeps_iff :
    window.Keeps ↔
      window.least = window.most ∨
        .ofMicroseconds window.least.microseconds = window.least ∧
          window.least.microseconds ≤ window.most.cutMicroseconds := by
  have cutFits : window.most.cutMicroseconds < 2 ^ 64 := Nat.mod_lt _ (Nat.two_pow_pos 64)
  constructor
  · intro keeps
    by_cases equal : window.least = window.most
    · exact Or.inl equal
    · right
      obtain ⟨delay, after, drawn, lower, _⟩ := keeps Random.Zeros Random.Zeros.endless
      have inOrder := (isSome_draw_iff.mp (Option.isSome_of_eq_some drawn)).resolve_left equal
      rw [of_draw_zeros_eq_some equal inOrder drawn] at lower
      have uncut : window.least.cutMicroseconds = window.least.microseconds :=
        Nat.le_antisymm (Nat.mod_le _ _) (Duration.microseconds_le_of_le_ofMicroseconds lower)
      rw [uncut] at lower inOrder
      exact ⟨Duration.le_antisymm (Duration.ofMicroseconds_le_iff.mpr (Nat.le_refl _)) lower,
        inOrder⟩
  · rintro (equal | ⟨whole, inOrder⟩) Source _ generator
    · exact ⟨_, generator, draw_of_eq equal generator, Nat.le_refl _, window.ordered⟩
    · have fits : window.least.microseconds < 2 ^ 64 := by omega
      have drawable : (window.draw generator).isSome = true :=
        isSome_draw_iff.mpr (Or.inr (by rwa [Duration.cutMicroseconds_of_lt fits]))
      obtain ⟨⟨delay, after⟩, drawn⟩ := Option.isSome_iff_exists.mp drawable
      exact ⟨delay, after, drawn, mem_of_draw whole fits drawn⟩

/-! ## Delays one after the other -/

/-- So many delays, each drawn from the generator that the one before it
leaves. -/
def draws (window : JitterWindow) : Nat → Source → Option (List Duration × Source)
  | 0, generator => some ([], generator)
  | count + 1, generator => do
    let (delay, generator) ← window.draw generator
    let (delays, generator) ← draws window count generator
    pure (delay :: delays, generator)

variable {count : Nat} {delays first second : List Duration}

theorem draws_succ_eq_some_iff :
    window.draws (count + 1) generator = some (delays, after) ↔
      ∃ delay between rest, window.draw generator = some (delay, between) ∧
        window.draws count between = some (rest, after) ∧ delays = delay :: rest := by
  simp only [draws, Option.bind_eq_bind, Option.bind_eq_some_iff, Prod.exists, Option.pure_def,
    Option.some.injEq, Prod.mk.injEq]
  constructor
  · rintro ⟨delay, between, drawn, rest, _, others, rfl, rfl⟩
    exact ⟨delay, between, rest, drawn, others, rfl⟩
  · rintro ⟨delay, between, rest, drawn, others, rfl⟩
    exact ⟨delay, between, drawn, rest, after, others, rfl, rfl⟩

/-- What holds of every delay that a window draws holds of those drawn one
after the other. -/
theorem forall_mem_of_draws
    {motive : Duration → Prop}
    (each : ∀ generator after delay,
      window.draw (generator : Source) = some (delay, after) → motive delay)
    (drawn : window.draws count generator = some (delays, after)) :
    ∀ delay ∈ delays, motive delay := by
  induction count generalizing generator delays with
  | zero =>
      cases drawn
      simp
  | succ count inductionHypothesis =>
      obtain ⟨delay, between, rest, one, others, rfl⟩ := draws_succ_eq_some_iff.mp drawn
      exact List.forall_mem_cons.mpr ⟨each generator between delay one, inductionHypothesis others⟩

/-- The delays are the first ones that the window gives with the generator. -/
def Gives (window : JitterWindow) (generator : Source) (delays : List Duration) : Prop :=
  ∃ after, window.draws delays.length generator = some (delays, after)

namespace Gives

theorem nil (generator : Source) : window.Gives generator [] := ⟨generator, rfl⟩

theorem cons
    (drawn : window.draw generator = some (delay, after))
    (rest : window.Gives after delays) :
    window.Gives generator (delay :: delays) := by
  obtain ⟨final, others⟩ := rest
  exact ⟨final, draws_succ_eq_some_iff.mpr ⟨delay, after, delays, drawn, others, rfl⟩⟩

/-- Of two lists of first delays one begins the other. -/
theorem prefix_or_prefix
    (one : window.Gives generator first)
    (other : window.Gives generator second) :
    first <+: second ∨ second <+: first := by
  induction first generalizing generator second with
  | nil => exact Or.inl List.nil_prefix
  | cons delay rest inductionHypothesis =>
      cases second with
      | nil => exact Or.inr List.nil_prefix
      | cons twin others =>
          obtain ⟨final, drawn⟩ := one
          obtain ⟨_, between, _, head, tail, split⟩ := draws_succ_eq_some_iff.mp drawn
          cases split
          obtain ⟨twinFinal, twinDrawn⟩ := other
          obtain ⟨_, twinBetween, _, twinHead, twinTail, twinSplit⟩ :=
            draws_succ_eq_some_iff.mp twinDrawn
          cases twinSplit
          rw [head] at twinHead
          cases twinHead
          simp only [List.cons_prefix_cons, true_and]
          exact inductionHypothesis ⟨final, tail⟩ ⟨twinFinal, twinTail⟩

end Gives

end JitterWindow
end Retry
end TenantLoad
