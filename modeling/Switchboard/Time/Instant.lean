import Switchboard.Time.Duration

/-!
# Points in time and the clock

An instant counts nanoseconds from the clock's origin. It exists only while its whole seconds stay
below 2^63, so adding a duration to it may fail. A clock is a list of readings: it shows one after
the other and stays at the last.
-/

namespace Switchboard

def Instant.limit : Nat := 9223372036854775808 * nanosPerSecond

/-- A point in time. -/
structure Instant where
  /-- Nanoseconds since the origin of the clock. -/
  nanos : Nat
  /-- The whole seconds fit into a signed 64-bit number. -/
  nanos_lt : nanos < Instant.limit := by decide
  deriving DecidableEq, Repr

namespace Instant

instance : Inhabited Instant := ⟨⟨0, by decide⟩⟩

/-- The instant that lies a duration after this one, if there is one. -/
def later? (instant : Instant) (duration : Duration) : Option Instant :=
  if fits : instant.nanos + duration.totalNanos < limit then
    some ⟨instant.nanos + duration.totalNanos, fits⟩
  else none

/-- How long it is from `now` until the instant; nothing once it has passed. -/
def remaining (instant now : Instant) : Duration :=
  .ofNanos (instant.nanos - now.nanos)

/-- The remaining time is the exact distance. -/
theorem totalNanos_remaining (instant now : Instant) :
    (instant.remaining now).totalNanos = instant.nanos - now.nanos := by
  apply Duration.totalNanos_ofNanos
  have bound := instant.nanos_lt
  rw [Duration.totalNanos_longest]
  simp only [limit, nanosPerSecond, UInt64.size] at bound ⊢
  omega

/-- Nothing remains exactly when the instant has been reached. -/
theorem remaining_isZero_iff (instant now : Instant) :
    (instant.remaining now).isZero = true ↔ instant.nanos ≤ now.nanos := by
  rw [Duration.isZero_iff, totalNanos_remaining]
  omega

end Instant

/-- A source of readings of the time. -/
structure Clock where
  /-- The reading that is shown next. -/
  now : Instant
  ahead : List Instant
  deriving DecidableEq, Repr

namespace Clock

def stopped (now : Instant) : Clock := ⟨now, []⟩

def tick : Clock → Clock
  | ⟨now, []⟩ => ⟨now, []⟩
  | ⟨_, next :: rest⟩ => ⟨next, rest⟩

def readings (clock : Clock) : List Instant :=
  clock.now :: clock.ahead

/-- The clock never goes back. -/
def Steady (clock : Clock) : Prop :=
  clock.readings.Pairwise fun earlier later => earlier.nanos ≤ later.nanos

end Clock

end Switchboard
