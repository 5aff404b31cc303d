import Switchboard.Backoff
import Switchboard.Event

/-!
# Emptying the queue of waiting connections

When connections are waiting, a server accepts them one after the other until none is left. A
connection resets the backoff. A fault that will pass makes the server wait before the next attempt,
unless there were too many in a row; any other fault ends the server. Once it has been asked to
stop, the server accepts no more; but a connection that it has accepted it keeps.

The queue is scripted: it says what each attempt to accept will meet. After the script nobody is
waiting.
-/

namespace Switchboard

/-- The fault is expected to pass by itself: somebody gave up meanwhile, or something has run
out. -/
def Fault.isPassing (fault : Fault) : Bool :=
  (match fault.kind with
    | .connectionAborted | .connectionReset | .interrupted | .timedOut => true
    | _ => false) ||
  (match fault with
    | .system code => [12, 23, 24, 71, 105].contains code
    | _ => false)

/-- What an attempt to accept meets. -/
inductive Arrival (α : Type)
  /-- A connection; while it is taken over, the server may be asked to stop. -/
  | connection (value : α) (stopping : Bool)
  | fault (fault : Fault)

/-- A server in front of its queue. -/
structure AcceptQueue (α : Type) where
  arrivals : List (Arrival α)
  backoff : Backoff
  stopping : Bool
  accepted : List α
  attempts : Nat
  waits : List Duration
  events : List Event

namespace AcceptQueue

variable {α : Type}

def ofArrivals (arrivals : List (Arrival α)) (backoff : Backoff) (stopping : Bool) :
    AcceptQueue α :=
  ⟨arrivals, backoff, stopping, [], 0, [], []⟩

def tell (log : Bool) (event : Event) (queue : AcceptQueue α) : AcceptQueue α :=
  if log then { queue with events := queue.events ++ [event] } else queue

/-- The queue after an attempt that has met the first arrival of the script. -/
def attempted (queue : AcceptQueue α) : AcceptQueue α :=
  { queue with arrivals := queue.arrivals.tail, attempts := queue.attempts + 1 }

def takeOver (value : α) (stopping : Bool) (queue : AcceptQueue α) : AcceptQueue α :=
  { queue with
    backoff := .fresh
    accepted := queue.accepted ++ [value]
    stopping := queue.stopping || stopping }

/-- Waits after a fault that will pass, or gives up. -/
def backOff (maxRetries : UInt64) (log : Bool) (fault : Fault) :
    EStateM Error (AcceptQueue α) Unit :=
  fun queue =>
    let told := queue.tell log (.acceptFailed fault)
    match Backoff.retryDelay maxRetries fault told.backoff with
    | .error error backoff => .error error { told with backoff }
    | .ok delay backoff =>
        .ok ()
          (({ told with backoff, waits := told.waits ++ [delay] } : AcceptQueue α).tell log
            (.backingOff backoff.attempts (delay.millis % UInt64.size)))

@[simp]
theorem arrivals_tell (log : Bool) (event : Event) (queue : AcceptQueue α) :
    (queue.tell log event).arrivals = queue.arrivals := by
  unfold tell
  split <;> rfl

/-- Waiting leaves the script alone. -/
theorem arrivals_of_backOff {maxRetries : UInt64} {log : Bool} {fault : Fault}
    {before after : AcceptQueue α} (done : backOff maxRetries log fault before = .ok () after) :
    after.arrivals = before.arrivals := by
  simp only [backOff] at done
  split at done
  · cases done
  · cases done
    simp

/-- Accepts until nobody is waiting, the server has been asked to stop, or there is an error. -/
def drain (maxRetries : UInt64) (log : Bool) (queue : AcceptQueue α) :
    EStateM.Result Error (AcceptQueue α) Unit :=
  if queue.stopping then .ok () queue
  else
    match _ : queue.arrivals with
    | [] => .ok () queue.attempted
    | .connection value stopping :: _ =>
        drain maxRetries log (queue.attempted.takeOver value stopping)
    | .fault fault :: _ =>
        if fault.kind = .wouldBlock then .ok () queue.attempted
        else if fault.isPassing then
          match _ : backOff maxRetries log fault queue.attempted with
          | .ok () after => drain maxRetries log after
          | .error error after => .error error after
        else .error (.io fault) queue.attempted
termination_by queue.arrivals.length
decreasing_by
  · simp_all [attempted, takeOver]
  · rw [arrivals_of_backOff ‹_›]
    simp_all [attempted]

end AcceptQueue

end Switchboard
