import Switchboard.Error
import Switchboard.Time.Duration

/-!
# Waiting longer and longer

After a failure that will pass, the next attempt waits; after each further one it waits twice as
long. A backoff is the present delay and the number of failures in a row. Doubling stops at the
longest duration. Once there were more failures in a row than retries are allowed, the last of them
is reported.
-/

namespace Switchboard

/-- How long the next attempt waits, and after how many failures in a row. -/
structure Backoff where
  delay : Duration
  /-- Failures in a row. -/
  attempts : UInt64
  deriving DecidableEq, Repr

namespace Backoff

def initialDelay : Duration := .ofMillis 10

def fresh : Backoff := ⟨initialDelay, 0⟩

instance : Inhabited Backoff := ⟨fresh⟩

def next (backoff : Backoff) : Backoff :=
  ⟨backoff.delay.double, backoff.attempts + 1⟩

/-- A word is enough for the next failure unless it is full. -/
theorem attempts_next {backoff : Backoff} (room : backoff.attempts.toNat + 1 < UInt64.size) :
    backoff.next.attempts.toNat = backoff.attempts.toNat + 1 := by
  change (backoff.attempts + 1).toNat = _
  rw [UInt64.toNat_add]
  exact Nat.mod_eq_of_lt room

/-- There were more failures in a row than retries are allowed. -/
def exhausted (backoff : Backoff) (maxRetries : UInt64) : Bool :=
  maxRetries < backoff.attempts

/-- Counts a failure; returns how long to wait, or reports the failure if there were too many. -/
def retryDelay (maxRetries : UInt64) (fault : Fault) : EStateM Error Backoff Duration :=
  fun backoff =>
    let later := backoff.next
    if later.exhausted maxRetries then .error (.retriesExhausted maxRetries fault) later
    else .ok later.delay later

end Backoff

end Switchboard
