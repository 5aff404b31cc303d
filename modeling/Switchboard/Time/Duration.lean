/-!
# Lengths of time

A duration is a number of whole seconds, below 2^64, and a number of further nanoseconds, below one
second. Both words matter: doubling carries from the nanoseconds into the seconds and stops at the
longest duration. `totalNanos` is the view in which durations are ordinary numbers;
`totalNanos_double` and `totalNanos_ofMillis` say what the operations do in it.
-/

namespace Switchboard

def nanosPerSecond : Nat := 1000000000

def nanosPerMilli : Nat := 1000000

/-- A length of time. -/
structure Duration where
  secs : UInt64
  /-- Nanoseconds beyond the whole seconds. -/
  nanos : Nat
  nanos_lt : nanos < nanosPerSecond := by decide
  deriving DecidableEq, Repr

namespace Duration

def zero : Duration := ⟨0, 0, by decide⟩

def longest : Duration := ⟨18446744073709551615, 999999999, by decide⟩

instance : Inhabited Duration := ⟨zero⟩

def totalNanos (duration : Duration) : Nat :=
  duration.secs.toNat * nanosPerSecond + duration.nanos

def millis (duration : Duration) : Nat :=
  duration.secs.toNat * 1000 + duration.nanos / nanosPerMilli

def isZero (duration : Duration) : Bool :=
  duration.secs == 0 && duration.nanos == 0

/-- A number of nanoseconds as a duration, or the longest one if there is no such duration. -/
def ofNanos (count : Nat) : Duration :=
  if count / nanosPerSecond < UInt64.size then
    ⟨UInt64.ofNat (count / nanosPerSecond), count % nanosPerSecond, Nat.mod_lt _ (by decide)⟩
  else longest

def ofMillis (count : UInt64) : Duration :=
  ⟨count / 1000, (count % 1000).toNat * nanosPerMilli, by
    have small : (count % 1000).toNat < 1000 := by
      rw [UInt64.toNat_mod]
      exact Nat.mod_lt _ (by decide)
    simp only [nanosPerMilli, nanosPerSecond]
    omega⟩

/-- Twice the duration, or the longest one if twice is too long. -/
def double (duration : Duration) : Duration :=
  let carry := 2 * duration.nanos / nanosPerSecond
  let secs := 2 * duration.secs.toNat + carry
  if secs < UInt64.size then
    ⟨UInt64.ofNat secs, 2 * duration.nanos % nanosPerSecond, Nat.mod_lt _ (by decide)⟩
  else longest

/-- A fraction below one in decimal, without the zeros at its end; `places` is the number of digits
that the fraction has in full. -/
def fractionText (fraction places : Nat) : String :=
  let digits := (toString fraction).toList
  let full := List.replicate (places - digits.length) '0' ++ digits
  let short := (full.reverse.dropWhile (· == '0')).reverse
  if short.isEmpty then "" else "." ++ String.ofList short

/-- The duration in the largest unit of which it holds at least one, with its exact fraction. -/
def text (duration : Duration) : String :=
  if 0 < duration.secs then
    toString duration.secs.toNat ++ fractionText duration.nanos 9 ++ "s"
  else if 1000000 ≤ duration.nanos then
    toString (duration.nanos / 1000000) ++ fractionText (duration.nanos % 1000000) 6 ++ "ms"
  else if 1000 ≤ duration.nanos then
    toString (duration.nanos / 1000) ++ fractionText (duration.nanos % 1000) 3 ++ "µs"
  else toString duration.nanos ++ "ns"

/-- The longest duration is one nanosecond short of 2^64 seconds. -/
theorem totalNanos_longest : longest.totalNanos = UInt64.size * nanosPerSecond - 1 := by decide

/-- No duration is longer than the longest. -/
theorem totalNanos_le_longest (duration : Duration) :
    duration.totalNanos ≤ longest.totalNanos := by
  have secsBound : duration.secs.toNat < UInt64.size := duration.secs.toNat_lt
  have nanosBound := duration.nanos_lt
  rw [totalNanos_longest]
  simp only [totalNanos, nanosPerSecond, UInt64.size] at secsBound nanosBound ⊢
  omega

/-- Durations with the same number of nanoseconds are the same. -/
theorem ext_totalNanos {left right : Duration} (same : left.totalNanos = right.totalNanos) :
    left = right := by
  obtain ⟨leftSecs, leftNanos, leftBound⟩ := left
  obtain ⟨rightSecs, rightNanos, rightBound⟩ := right
  simp only [totalNanos, nanosPerSecond] at same leftBound rightBound
  have secsSame : leftSecs = rightSecs := UInt64.toNat.inj (by omega)
  subst secsSame
  have nanosSame : leftNanos = rightNanos := by omega
  subst nanosSame
  rfl

/-- A duration is empty exactly when it holds no nanosecond. -/
theorem isZero_iff (duration : Duration) : duration.isZero = true ↔ duration.totalNanos = 0 := by
  obtain ⟨secs, nanos, bound⟩ := duration
  simp only [isZero, totalNanos, nanosPerSecond, Bool.and_eq_true, beq_iff_eq,
    ← UInt64.toNat_inj, UInt64.toNat_zero]
  omega

/-- Numbers of nanoseconds that some duration has are kept. -/
theorem totalNanos_ofNanos {count : Nat} (fits : count ≤ longest.totalNanos) :
    (ofNanos count).totalNanos = count := by
  rw [totalNanos_longest] at fits
  simp only [nanosPerSecond, UInt64.size] at fits
  have secsFit : count / nanosPerSecond < UInt64.size := by
    simp only [nanosPerSecond, UInt64.size]
    omega
  simp only [ofNanos, secsFit, if_true, totalNanos, UInt64.toNat_ofNat']
  rw [Nat.mod_eq_of_lt secsFit]
  simp only [nanosPerSecond]
  omega

/-- Milliseconds are a million nanoseconds each. -/
theorem totalNanos_ofMillis (count : UInt64) :
    (ofMillis count).totalNanos = count.toNat * nanosPerMilli := by
  have thousand : (1000 : UInt64).toNat = 1000 := rfl
  simp only [ofMillis, totalNanos, nanosPerSecond, nanosPerMilli, UInt64.toNat_div,
    UInt64.toNat_mod, thousand]
  omega

/-- Doubling doubles the nanoseconds until the longest duration is reached. -/
theorem totalNanos_double (duration : Duration) :
    duration.double.totalNanos = min (2 * duration.totalNanos) longest.totalNanos := by
  obtain ⟨secs, nanos, bound⟩ := duration
  rw [totalNanos_longest]
  simp only [nanosPerSecond, UInt64.size] at bound ⊢
  by_cases fits : 2 * secs.toNat + 2 * nanos / nanosPerSecond < UInt64.size
  · simp only [double, fits, if_true, totalNanos, UInt64.toNat_ofNat']
    rw [Nat.mod_eq_of_lt fits]
    simp only [nanosPerSecond, UInt64.size] at fits ⊢
    omega
  · simp only [double, fits, if_false]
    rw [totalNanos_longest]
    simp only [totalNanos, nanosPerSecond, UInt64.size] at fits ⊢
    omega

end Duration

end Switchboard
