import Mathlib.Algebra.Order.Ring.Nat
import Switchboard.Backoff

/-!
# How long a backoff waits

Each failure doubles the delay. A duration is two words, and doubling carries from the one into the
other; in nanoseconds it is the doubling of numbers, as long as there is such a duration. From then
on the delay is the longest there is. Stopping at the longest duration in each step is the same as
stopping once, at the end (`totalNanos_iterate_double`).

So the failures in a row that a server forgives wait for ten milliseconds times a power of two each,
and the first one that it does not forgive is reported (`waiting_doubles`).
-/

namespace Switchboard

theorem Duration.totalNanos_iterate_double (duration : Duration) (count : Nat) :
    (double^[count] duration).totalNanos = min (duration.totalNanos * 2 ^ count)
      longest.totalNanos := by
  induction count with
  | zero =>
      rw [Function.iterate_zero, id, pow_zero, Nat.mul_one]
      exact (Nat.min_eq_left duration.totalNanos_le_longest).symm
  | succ count ih =>
      rw [Function.iterate_succ_apply', totalNanos_double, ih, pow_succ, ← Nat.mul_assoc]
      omega

namespace Backoff

theorem delay_iterate_next (backoff : Backoff) (count : Nat) :
    (next^[count] backoff).delay = Duration.double^[count] backoff.delay := by
  induction count with
  | zero => rfl
  | succ count ih => rw [Function.iterate_succ_apply', Function.iterate_succ_apply', ← ih, next]

theorem attempts_iterate_next {backoff : Backoff} {count : Nat}
    (room : backoff.attempts.toNat + count < UInt64.size) :
    (next^[count] backoff).attempts.toNat = backoff.attempts.toNat + count := by
  induction count with
  | zero => rfl
  | succ count ih =>
      have counted := ih (by omega)
      rw [Function.iterate_succ_apply', attempts_next (by omega), counted, Nat.add_assoc]

theorem totalNanos_iterate_next (backoff : Backoff) (count : Nat) :
    (next^[count] backoff).delay.totalNanos =
      min (backoff.delay.totalNanos * 2 ^ count) Duration.longest.totalNanos := by
  rw [delay_iterate_next, Duration.totalNanos_iterate_double]

/-- A longer row of failures never makes for a shorter delay. -/
theorem totalNanos_iterate_mono (backoff : Backoff) {fewer more : Nat} (ordered : fewer ≤ more) :
    (next^[fewer] backoff).delay.totalNanos ≤ (next^[more] backoff).delay.totalNanos := by
  have powers : 2 ^ fewer ≤ 2 ^ more := Nat.pow_le_pow_right (by decide) ordered
  have products := Nat.mul_le_mul_left backoff.delay.totalNanos powers
  rw [totalNanos_iterate_next, totalNanos_iterate_next]
  omega

/-- The longest delay is the last one. -/
theorem delay_iterate_of_longest {backoff : Backoff} {fewer more : Nat} (ordered : fewer ≤ more)
    (reached : (next^[fewer] backoff).delay = .longest) :
    (next^[more] backoff).delay = .longest := by
  have grown := backoff.totalNanos_iterate_mono ordered
  have bound := (next^[more] backoff).delay.totalNanos_le_longest
  rw [reached] at grown
  exact Duration.ext_totalNanos (Nat.le_antisymm bound grown)

/-! ## Failures in a row -/

/-- The backoff that a call has left. -/
def left : EStateM.Result Error Backoff Duration → Backoff
  | .ok _ backoff => backoff
  | .error _ backoff => backoff

/-- What calls for the delay come to that are made one after the other, each for a failure of its
own. -/
def retrials (maxRetries : UInt64) :
    List Fault → Backoff → List (EStateM.Result Error Backoff Duration)
  | [], _ => []
  | fault :: later, backoff =>
      let outcome := retryDelay maxRetries fault backoff
      outcome :: retrials maxRetries later (left outcome)

theorem retryDelay_eq (maxRetries : UInt64) (fault : Fault) (backoff : Backoff) :
    retryDelay maxRetries fault backoff =
      if maxRetries < backoff.next.attempts then
        .error (.retriesExhausted maxRetries fault) backoff.next
      else .ok backoff.next.delay backoff.next := by
  simp only [retryDelay, exhausted, decide_eq_true_eq]

/-- Whether it is forgiven or not, a failure is counted. -/
theorem left_retryDelay (maxRetries : UInt64) (fault : Fault) (backoff : Backoff) :
    left (retryDelay maxRetries fault backoff) = backoff.next := by
  rw [retryDelay_eq]
  split
  · rfl
  · rfl

/-- Each call finds the backoff that was left by as many failures as there were calls before it. -/
theorem getElem?_retrials (maxRetries : UInt64) (faults : List Fault) (backoff : Backoff)
    (index : Nat) :
    (retrials maxRetries faults backoff)[index]? =
      faults[index]?.map fun fault => retryDelay maxRetries fault (next^[index] backoff) := by
  induction faults generalizing backoff index with
  | nil => rfl
  | cons fault later ih =>
      rw [retrials]
      cases index with
      | zero => rfl
      | succ index =>
          rw [List.getElem?_cons_succ, List.getElem?_cons_succ, ih, left_retryDelay,
            Function.iterate_succ_apply]

/-- The words of a backoff that has counted some failures in a row. -/
structure Counts (failures : Nat) (backoff : Backoff) : Prop where
  attempts : backoff.attempts.toNat = failures
  delay : backoff.delay.totalNanos = min (10 * nanosPerMilli * 2 ^ failures)
    Duration.longest.totalNanos

theorem counts_iterate_fresh {failures : Nat} (room : failures < UInt64.size) :
    Counts failures (next^[failures] fresh) where
  attempts := by
    have none : fresh.attempts.toNat = 0 := rfl
    rw [attempts_iterate_next (by omega), none, Nat.zero_add]
  delay := totalNanos_iterate_next fresh failures

/-- A number of failures in a row doubles the delay as many times, to the nanosecond, unless that is
too long for a duration, and is counted. So a server that begins afresh forgives as many failures in
a row as it retries, waits for ten milliseconds times a power of two after each of them, and reports
the next failure itself; until then its count does not overflow. -/
theorem waiting_doubles (backoff : Backoff) {count : Nat}
    (room : backoff.attempts.toNat + count < UInt64.size) {maxRetries : UInt64}
    (spare : maxRetries.toNat + 1 < UInt64.size) (faults : List Fault) :
    (next^[count] backoff).attempts.toNat = backoff.attempts.toNat + count ∧
      (next^[count] backoff).delay.totalNanos =
        min (backoff.delay.totalNanos * 2 ^ count) Duration.longest.totalNanos ∧
      (∀ fewer ≤ count, (next^[fewer] backoff).delay = .longest →
        (next^[count] backoff).delay = .longest) ∧
      (∀ fewer ≤ count,
        (next^[fewer] backoff).delay.totalNanos ≤ (next^[count] backoff).delay.totalNanos) ∧
      (∀ index fault, faults[index]? = some fault → index < maxRetries.toNat →
        ∃ after, (retrials maxRetries faults .fresh)[index]? = some (.ok after.delay after) ∧
          Counts (index + 1) after) ∧
      (∀ fault, faults[maxRetries.toNat]? = some fault →
        ∃ after, (retrials maxRetries faults .fresh)[maxRetries.toNat]? =
            some (.error (.retriesExhausted maxRetries fault) after) ∧
          Counts (maxRetries.toNat + 1) after) := by
  refine ⟨attempts_iterate_next room, totalNanos_iterate_next backoff count,
    fun _ ordered reached => delay_iterate_of_longest ordered reached,
    fun _ ordered => totalNanos_iterate_mono backoff ordered, ?_, ?_⟩
  · intro index fault here within
    have counts := counts_iterate_fresh (show index + 1 < UInt64.size by omega)
    refine ⟨next^[index + 1] fresh, ?_, counts⟩
    have forgiven : ¬maxRetries < (next^[index + 1] fresh).attempts := by
      rw [UInt64.lt_iff_toNat_lt, counts.attempts]
      omega
    rw [Function.iterate_succ_apply'] at forgiven ⊢
    rw [getElem?_retrials, here, Option.map_some, retryDelay_eq, if_neg forgiven]
  · intro fault here
    have counts := counts_iterate_fresh spare
    refine ⟨next^[maxRetries.toNat + 1] fresh, ?_, counts⟩
    have many : maxRetries < (next^[maxRetries.toNat + 1] fresh).attempts := by
      rw [UInt64.lt_iff_toNat_lt, counts.attempts]
      omega
    rw [Function.iterate_succ_apply'] at many ⊢
    rw [getElem?_retrials, here, Option.map_some, retryDelay_eq, if_pos many]

/-- A delay that can be doubled once, with a carry, and a word that has room for two more
failures. -/
def worn : Backoff := ⟨⟨4611686018427387904, 600000000, by decide⟩, 18446744073709551613⟩

theorem third_failure_is_reported :
    (worn.attempts.toNat + 2 < UInt64.size ∧ (2 : UInt64).toNat + 1 < UInt64.size) ∧
      (next^[2] worn).attempts.toNat = 18446744073709551615 ∧
      (next^[2] worn).delay.totalNanos = Duration.longest.totalNanos ∧
      ∃ after, (retrials 2 [.system 103, .system 24, .plain .timedOut] .fresh)[2]? =
          some (.error (.retriesExhausted 2 (.plain .timedOut)) after) ∧ Counts 3 after := by
  have room : worn.attempts.toNat + 2 < UInt64.size := by decide
  have spare : (2 : UInt64).toNat + 1 < UInt64.size := by decide
  rcases waiting_doubles worn room spare [.system 103, .system 24, .plain .timedOut] with
    ⟨attempts, delay, _, _, _, reported⟩
  have longest : min (worn.delay.totalNanos * 2 ^ 2) Duration.longest.totalNanos =
      Duration.longest.totalNanos := by decide
  exact ⟨⟨room, spare⟩, attempts, delay.trans longest, reported _ rfl⟩

end Backoff

end Switchboard
