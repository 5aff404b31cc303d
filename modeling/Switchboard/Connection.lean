import Switchboard.Protocol
import Switchboard.Stream.Writer
import Switchboard.Text.Outline
import Switchboard.Transport

/-!
# Connections

A connection owns one transport. It may have a deadline: then the time limit of the transport is set
anew before every single read and write, to what is left until the deadline, and once the deadline
has passed nothing is read or written any more. So a peer that sends one byte at a time cannot
stretch it.

A connection that was closed stays closed. Everything that is asked of it afterwards fails and
leaves the transport alone; closing it again succeeds. It counts as closed even if shutting the
transport down failed.

This file holds the raw operations, which know nothing about messages. The timed operations below
them ignore whether the connection is closed and are what messages are read and written with.
-/

namespace Switchboard

/-- A connection. -/
structure Connection where
  transport : Transport
  /-- The protocol and the address that were dialled, if this side has dialled. -/
  dialled : Option (Protocol × String)
  /-- This side has closed the connection. -/
  closed : Bool
  bodyLimit : Option UInt64
  deadline : Option Instant

namespace Connection

variable {α : Type}

/-- An open connection over a transport, without a limit or a deadline. -/
def ofTransport (transport : Transport) : Connection :=
  ⟨transport, none, false, none, none⟩

/-- What the connection still has to give to its readers. -/
def budget (connection : Connection) : Nat :=
  connection.transport.budget

/-- How many writes may still fail. -/
def writeBudget (connection : Connection) : Nat :=
  connection.transport.outgoing.length + connection.transport.timeoutFaults.length

def onTransport (action : EStateM Fault Transport α) : EStateM Fault Connection α :=
  fun connection =>
    match action connection.transport with
    | .ok value transport => .ok value { connection with transport }
    | .error fault transport => .error fault { connection with transport }

/-- Gives the transport the time that is left until the deadline, if there is one. -/
def arm : EStateM Fault Connection Unit := fun connection =>
  match connection.deadline with
  | none => .ok () connection
  | some deadline =>
      let (now, transport) := connection.transport.readClock
      let left := deadline.remaining now
      if left.isZero then .error .pastDeadline { connection with transport }
      else onTransport (Transport.setTimeout (some left)) { connection with transport }

def timedRead (asked : Nat) : EStateM Fault Connection Bytes := do
  arm
  onTransport (Transport.read asked)

def timedWrite (offered : Bytes) : EStateM Fault Connection Nat := do
  arm
  onTransport (Transport.write offered)

/-- Refuses what a closed connection cannot do. -/
def unlessClosed (action : EStateM Fault Connection α) : EStateM Fault Connection α :=
  fun connection => if connection.closed then .error .closed connection else action connection

/-! ## What the operations leave of the budgets -/

/-- A time limit that could be set costs its entry in the script. -/
private theorem setTimeout_ok {limit : Option Duration} {before after : Transport}
    (done : Transport.setTimeout limit before = .ok () after) :
    after.incoming = before.incoming ∧ after.outgoing = before.outgoing ∧
      after.timeoutFaults = before.timeoutFaults.tail := by
  simp only [Transport.setTimeout] at done
  cases pending : before.timeoutFaults.head?.join with
  | none =>
      rw [pending] at done
      cases done
      exact ⟨rfl, rfl, rfl⟩
  | some fault =>
      rw [pending] at done
      cases done

/-- A time limit that could not be set costs its entry in the script, too, and there was one. -/
private theorem setTimeout_error {limit : Option Duration} {before after : Transport}
    {fault : Fault} (failed : Transport.setTimeout limit before = .error fault after) :
    after.incoming = before.incoming ∧ after.outgoing = before.outgoing ∧
      after.timeoutFaults = before.timeoutFaults.tail ∧ before.timeoutFaults ≠ [] := by
  simp only [Transport.setTimeout] at failed
  cases pending : before.timeoutFaults.head?.join with
  | none =>
      rw [pending] at failed
      cases failed
  | some fault =>
      rw [pending] at failed
      cases failed
      refine ⟨rfl, rfl, rfl, ?_⟩
      intro empty
      simp [empty] at pending

/-- Arming either does nothing, or finds the deadline reached, or sets a time limit. -/
theorem arm_cases (before : Connection) :
    (before.deadline = none ∧ arm before = .ok () before) ∨
      ∃ deadline, before.deadline = some deadline ∧
        (((deadline.remaining before.transport.clock.now).isZero = true ∧
            arm before = .error .pastDeadline { before with
              transport := before.transport.readClock.2 }) ∨
          ((deadline.remaining before.transport.clock.now).isZero = false ∧
            arm before =
              onTransport
                (Transport.setTimeout (some (deadline.remaining before.transport.clock.now)))
                { before with transport := before.transport.readClock.2 })) := by
  cases due : before.deadline with
  | none =>
      refine Or.inl ⟨rfl, ?_⟩
      simp only [arm, due]
  | some deadline =>
      refine Or.inr ⟨deadline, rfl, ?_⟩
      cases expired : (deadline.remaining before.transport.clock.now).isZero with
      | true =>
          refine Or.inl ⟨rfl, ?_⟩
          simp only [arm, due, Transport.readClock, expired, if_true]
      | false =>
          refine Or.inr ⟨rfl, ?_⟩
          simp only [arm, due, Transport.readClock, expired]
          rfl

/-- Arming costs at most the time limit that it sets. -/
theorem budget_of_arm_ok {before after : Connection} (done : arm before = .ok () after) :
    after.budget ≤ before.budget ∧ after.transport.outgoing = before.transport.outgoing ∧
      after.writeBudget ≤ before.writeBudget := by
  rcases arm_cases before with ⟨_, idle⟩ | ⟨deadline, _, ⟨_, late⟩ | ⟨_, set⟩⟩
  · rw [idle] at done
    cases done
    exact ⟨Nat.le_refl _, rfl, Nat.le_refl _⟩
  · rw [late] at done
    cases done
  · rw [set] at done
    simp only [onTransport] at done
    split at done
    · next step =>
      cases done
      obtain ⟨incoming, outgoing, faults⟩ := setTimeout_ok step
      simp only [budget, writeBudget, Transport.budget, incoming, outgoing, faults,
        Transport.readClock, List.length_tail]
      exact ⟨by omega, trivial, by omega⟩
    · cases done

/-- A failed arming costs nothing back. -/
theorem budget_of_arm_error {before after : Connection} {fault : Fault}
    (failed : arm before = .error fault after) : after.budget ≤ before.budget := by
  rcases arm_cases before with ⟨_, idle⟩ | ⟨deadline, _, ⟨_, late⟩ | ⟨_, set⟩⟩
  · rw [idle] at failed
    cases failed
  · rw [late] at failed
    cases failed
    exact Nat.le_refl _
  · rw [set] at failed
    simp only [onTransport] at failed
    split at failed
    · cases failed
    · next step =>
      cases failed
      obtain ⟨incoming, _, faults, _⟩ := setTimeout_error step
      simp only [budget, Transport.budget, incoming, faults, Transport.readClock, List.length_tail]
      omega

/-- An interrupted arming uses up one of the time limits that fail. -/
theorem budget_of_arm_interrupted {before after : Connection} {fault : Fault}
    (failed : arm before = .error fault after) (interrupted : fault.isInterrupted = true) :
    after.budget < before.budget ∧ after.writeBudget < before.writeBudget := by
  rcases arm_cases before with ⟨_, idle⟩ | ⟨deadline, _, ⟨_, late⟩ | ⟨_, set⟩⟩
  · rw [idle] at failed
    cases failed
  · rw [late] at failed
    cases failed
    exact absurd interrupted (by decide)
  · rw [set] at failed
    simp only [onTransport] at failed
    split at failed
    · cases failed
    · next step =>
      cases failed
      obtain ⟨incoming, outgoing, faults, pending⟩ := setTimeout_error step
      have positive := List.length_pos_iff.mpr pending
      simp only [Transport.readClock] at positive incoming outgoing faults
      simp only [budget, writeBudget, Transport.budget, incoming, outgoing, faults,
        List.length_tail]
      exact ⟨by omega, by omega⟩

theorem budget_of_timedRead_ok {asked : Nat} {before after : Connection} {data : Bytes}
    (done : timedRead asked before = .ok data after) :
    after.budget + data.length ≤ before.budget := by
  simp only [timedRead, bind, EStateM.bind] at done
  split at done
  · next armed step =>
    have first := (budget_of_arm_ok step).1
    simp only [onTransport] at done
    split at done
    · next inner =>
      cases done
      have second := Transport.budget_of_read_ok inner
      simp only [budget] at *
      omega
    · cases done
  · cases done

theorem budget_of_timedRead_error {asked : Nat} {before after : Connection} {fault : Fault}
    (failed : timedRead asked before = .error fault after) : after.budget ≤ before.budget := by
  simp only [timedRead, bind, EStateM.bind] at failed
  split at failed
  · next armed step =>
    have first := (budget_of_arm_ok step).1
    simp only [onTransport] at failed
    split at failed
    · cases failed
    · next inner =>
      cases failed
      have second := Transport.budget_of_read_error inner
      simp only [budget] at *
      omega
  · next step =>
    cases failed
    exact budget_of_arm_error step

theorem budget_of_timedRead_interrupted {asked : Nat} {before after : Connection} {fault : Fault}
    (failed : timedRead asked before = .error fault after)
    (interrupted : fault.isInterrupted = true) :
    after.budget < before.budget := by
  simp only [timedRead, bind, EStateM.bind] at failed
  split at failed
  · next armed step =>
    have first := (budget_of_arm_ok step).1
    simp only [onTransport] at failed
    split at failed
    · cases failed
    · next inner =>
      cases failed
      have second := Transport.budget_of_read_error inner
      simp only [budget] at *
      omega
  · next step =>
    cases failed
    exact (budget_of_arm_interrupted step interrupted).1

theorem length_le_of_timedRead_ok {asked : Nat} {before after : Connection} {data : Bytes}
    (done : timedRead asked before = .ok data after) : data.length ≤ asked := by
  simp only [timedRead, bind, EStateM.bind] at done
  split at done
  · next armed step =>
    simp only [onTransport] at done
    split at done
    · next inner =>
      cases done
      exact Transport.length_le_of_read_ok inner
    · cases done
  · cases done

theorem writeBudget_of_timedWrite_interrupted {offered : Bytes} {before after : Connection}
    {fault : Fault} (failed : timedWrite offered before = .error fault after)
    (interrupted : fault.isInterrupted = true) : after.writeBudget < before.writeBudget := by
  simp only [timedWrite, bind, EStateM.bind] at failed
  split at failed
  · next armed step =>
    have first := (budget_of_arm_ok step).2.2
    simp only [onTransport] at failed
    split at failed
    · cases failed
    · next inner =>
      cases failed
      simp only [Transport.write] at inner
      split at inner
      · cases inner
      · cases inner
      · next pending =>
        cases inner
        simp only [writeBudget, pending, List.length_cons] at *
        omega
  · next step =>
    cases failed
    exact (budget_of_arm_interrupted step interrupted).2

/-! ## The operations as readers and writers -/

def timedReader : Reader Connection where
  read := timedRead
  budget := budget
  budget_of_ok := budget_of_timedRead_ok
  budget_of_error := budget_of_timedRead_error
  budget_of_interrupted := budget_of_timedRead_interrupted
  length_le := length_le_of_timedRead_ok

def timedWriter : Writer Connection where
  write := timedWrite
  budget := writeBudget
  budget_of_interrupted := writeBudget_of_timedWrite_interrupted

private theorem unlessClosed_eq_ok {action : EStateM Fault Connection α} {before after : Connection}
    {value : α} (done : unlessClosed action before = .ok value after) :
    action before = .ok value after := by
  unfold unlessClosed at done
  split at done
  · cases done
  · exact done

private theorem unlessClosed_eq_error {action : EStateM Fault Connection α}
    {before after : Connection} {fault : Fault}
    (failed : unlessClosed action before = .error fault after) :
    (fault = .closed ∧ after = before) ∨ action before = .error fault after := by
  unfold unlessClosed at failed
  split at failed
  · cases failed
    exact Or.inl ⟨rfl, rfl⟩
  · exact Or.inr failed

def rawReader : Reader Connection where
  read asked := unlessClosed (timedRead asked)
  budget := budget
  budget_of_ok done := budget_of_timedRead_ok (unlessClosed_eq_ok done)
  budget_of_error failed := by
    rcases unlessClosed_eq_error failed with ⟨_, rfl⟩ | inner
    · exact Nat.le_refl _
    · exact budget_of_timedRead_error inner
  budget_of_interrupted failed interrupted := by
    rcases unlessClosed_eq_error failed with ⟨rfl, _⟩ | inner
    · exact absurd interrupted (by decide)
    · exact budget_of_timedRead_interrupted inner interrupted
  length_le done := length_le_of_timedRead_ok (unlessClosed_eq_ok done)

def rawWriter : Writer Connection where
  write offered := unlessClosed (timedWrite offered)
  budget := writeBudget
  budget_of_interrupted failed interrupted := by
    rcases unlessClosed_eq_error failed with ⟨rfl, _⟩ | inner
    · exact absurd interrupted (by decide)
    · exact writeBudget_of_timedWrite_interrupted inner interrupted

/-! ## Raw operations -/

/-- Reads at most `asked` bytes. -/
def read (asked : Nat) : EStateM Fault Connection Bytes :=
  rawReader.read asked

def readExact (count : Nat) : EStateM Fault Connection Bytes :=
  rawReader.readExact count

/-- Reads until the stream ends or a fault comes up. -/
def readToEnd (connection : Connection) : Reader.Drained Connection :=
  rawReader.drain (.withCapacity 0) connection

def write (offered : Bytes) : EStateM Fault Connection Nat :=
  rawWriter.write offered

def writeAll (offered : Bytes) : EStateM Fault Connection Unit :=
  rawWriter.writeAll offered

/-- Delivers whatever is on its way. The deadline does not matter here. -/
def flush : EStateM Fault Connection Unit :=
  unlessClosed (onTransport Transport.flush)

/-! ## Life and deadline -/

def ensureOpen : EStateM Error Connection Unit := fun connection =>
  if connection.closed then .error .connectionClosed connection else .ok () connection

/-- Closes the connection. Whether the transport was still connected does not matter. -/
def close : EStateM Error Connection Unit := fun connection =>
  if connection.closed then .ok () connection
  else
    match onTransport Transport.shutdown { connection with closed := true } with
    | .ok () after => .ok () after
    | .error fault after =>
        if fault.kind = .notConnected then .ok () after else .error (.io fault) after

/-- Sets the deadline for everything that is read and written from now on. -/
def setDeadline (deadline : Instant) : EStateM Error Connection Unit := fun connection =>
  match ensureOpen connection with
  | .ok () connection => .ok () { connection with deadline := some deadline }
  | .error error connection => .error error connection

/-- Forgets the deadline, then lifts the time limit of the transport. -/
def clearDeadline : EStateM Error Connection Unit := fun connection =>
  match ensureOpen connection with
  | .ok () connection =>
      EStateM.adaptExcept Error.io (onTransport (Transport.setTimeout none))
        { connection with deadline := none }
  | .error error connection => .error error connection

/-- The connection with another limit on the bodies it reads. -/
def withBodyLimit (connection : Connection) (limit : Option UInt64) : Connection :=
  { connection with bodyLimit := limit }

/-- The connection after its transport was let go. -/
def release (connection : Connection) : Connection :=
  { connection with transport := connection.transport.release }

/-- What a person is shown of a connection. An instant has no written form. -/
def outline (connection : Connection) : Outline :=
  .record "Client"
    [("peer", .text connection.transport.peer),
      ("protocol", .optional (fun dialled => .leaf dialled.1.label) connection.dialled),
      ("addr", .optional (fun dialled => .text dialled.2) connection.dialled),
      ("closed", .flag connection.closed),
      ("deadline", .optional (fun _ => .leaf "INSTANT") connection.deadline)]
    true

end Connection

end Switchboard
