import TenantLoad.Duration
import TenantLoad.Random.Draw

/-!
# Jittered delays

The delay between two attempts is drawn from a window.  A window of equal
bounds is its own delay and draws nothing; any other window draws a whole
number of microseconds between its bounds, both cut to whole microseconds and
to 64 bits.  When the cut leaves the bounds in the wrong order there is
nothing to draw from.
-/

namespace TenantLoad
namespace Retry

/-- The bounds of a delay. -/
structure JitterWindow where
  least : Duration
  most : Duration
  ordered : least ≤ most
  deriving DecidableEq

namespace JitterWindow

/-- The window between two durations, in either order. -/
def between (first second : Duration) : JitterWindow :=
  if ordered : first ≤ second then ⟨first, second, ordered⟩
  else ⟨second, first, Nat.le_of_lt (Nat.lt_of_not_le ordered)⟩

/-- The window without any delay. -/
def none : JitterWindow := between .zero .zero

/-- The window that is used unless another is chosen. -/
def standard : JitterWindow := between (.ofMilliseconds 25) (.ofMilliseconds 75)

/-- Draw a delay; there is none when the cut bounds are out of order. -/
def draw {Source : Type} [Random.Words Source] (window : JitterWindow) (generator : Source) :
    Option (Duration × Source) :=
  if window.least = window.most then
    some (window.least, generator)
  else
    let low := window.least.microseconds % 0x10000000000000000
    let high := window.most.microseconds % 0x10000000000000000
    if high < low then
      Option.none
    else
      let (delay, generator) := Random.Draw.natBetween low high generator
      some (.ofMicroseconds delay, generator)

end JitterWindow
end Retry
end TenantLoad
