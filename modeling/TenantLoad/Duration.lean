/-!
# Durations

A length of time as a whole number of nanoseconds.  A timer wakes at whole
milliseconds, so waiting for a duration ends at the next one.
-/

namespace TenantLoad

/-- A length of time. -/
structure Duration where
  nanoseconds : Nat
  deriving Repr, DecidableEq

namespace Duration

/-- No time at all. -/
def zero : Duration := ⟨0⟩

/-- So many whole milliseconds. -/
def ofMilliseconds (count : Nat) : Duration := ⟨count * 1000000⟩

/-- So many whole microseconds. -/
def ofMicroseconds (count : Nat) : Duration := ⟨count * 1000⟩

/-- So many whole seconds. -/
def ofSeconds (count : Nat) : Duration := ⟨count * 1000000000⟩

/-- The whole microseconds of a duration. -/
def microseconds (duration : Duration) : Nat := duration.nanoseconds / 1000

/-- The whole seconds of a duration. -/
def seconds (duration : Duration) : Nat := duration.nanoseconds / 1000000000

/-- The milliseconds a timer needs to wait out a duration. -/
def timerMilliseconds (duration : Duration) : Nat := (duration.nanoseconds + 999999) / 1000000

instance : LE Duration := ⟨fun left right => left.nanoseconds ≤ right.nanoseconds⟩

instance (left right : Duration) : Decidable (left ≤ right) :=
  inferInstanceAs (Decidable (left.nanoseconds ≤ right.nanoseconds))

theorem le_def {left right : Duration} :
    left ≤ right ↔ left.nanoseconds ≤ right.nanoseconds := Iff.rfl

theorem le_antisymm {left right : Duration} (below : left ≤ right) (above : right ≤ left) :
    left = right := by
  cases left
  cases right
  exact congrArg mk (Nat.le_antisymm below above)

@[simp] theorem timerMilliseconds_ofMilliseconds (count : Nat) :
    (ofMilliseconds count).timerMilliseconds = count := by
  simp only [timerMilliseconds, ofMilliseconds]
  omega

/-- A timer waits no longer for a shorter duration. -/
theorem timerMilliseconds_le_timerMilliseconds {left right : Duration} (shorter : left ≤ right) :
    left.timerMilliseconds ≤ right.timerMilliseconds := by
  rw [le_def] at shorter
  simp only [timerMilliseconds]
  omega

@[simp] theorem microseconds_ofMicroseconds (count : Nat) :
    (ofMicroseconds count).microseconds = count := by
  simp [microseconds, ofMicroseconds]

@[simp] theorem microseconds_ofMilliseconds (count : Nat) :
    (ofMilliseconds count).microseconds = count * 1000 := by
  simp only [microseconds, ofMilliseconds]
  omega

theorem ofMilliseconds_inj {left right : Nat} :
    ofMilliseconds left = ofMilliseconds right ↔ left = right := by
  simp only [ofMilliseconds, mk.injEq]
  omega

/-- A millisecond has a thousand microseconds. -/
theorem ofMicroseconds_mul_eq_ofMilliseconds (count : Nat) :
    ofMicroseconds (count * 1000) = ofMilliseconds count := by
  simp only [ofMicroseconds, ofMilliseconds, Nat.mul_assoc]

/-- The whole microseconds of a duration are the most that it holds. -/
theorem ofMicroseconds_le_iff {count : Nat} {duration : Duration} :
    ofMicroseconds count ≤ duration ↔ count ≤ duration.microseconds := by
  simp only [le_def, ofMicroseconds, microseconds]
  omega

/-- A duration of whole microseconds has at least those of a shorter one. -/
theorem microseconds_le_of_le_ofMicroseconds {count : Nat} {duration : Duration}
    (shorter : duration ≤ ofMicroseconds count) :
    duration.microseconds ≤ count := by
  simp only [le_def, ofMicroseconds] at shorter
  simp only [microseconds]
  omega

/-- The duration in seconds as a float: the whole seconds plus the fraction. -/
def secondsFloat (duration : Duration) : Float :=
  (UInt64.ofNat duration.seconds).toFloat +
    (UInt64.ofNat (duration.nanoseconds % 1000000000)).toFloat / 1000000000.0

end Duration
end TenantLoad
