import Switchboard.Stream.Reader
import Switchboard.Time.Instant

/-!
# Transports

A transport carries bytes in both directions and can limit how long its calls may take. Here it is
scripted: what arrives, how much each write takes, and which calls fail are all given in advance,
and so are the readings of the clock. Whatever is done to a transport is entered in its journal,
together with the outcome, so that the journal tells everything that a peer or an observer could
have noticed.

The journal has the latest call first. The bytes that were sent, the sizes of the writes and the
time limit in force are read off it.
-/

namespace Switchboard

/-- What becomes of one write. -/
inductive Transport.Intake
  /-- It takes at most so many bytes. -/
  | accept (count : Nat)
  | fault (fault : Fault)
  deriving DecidableEq, Repr

/-- One thing that was done to a transport, and how it ended. -/
inductive Transport.Call
  | clock (now : Instant)
  /-- The time that each further call may take was set, or the limit was lifted. -/
  | setTimeout (limit : Option Duration) (fault : Option Fault)
  /-- At most so many bytes were asked for. -/
  | read (asked : Nat) (outcome : Except Fault Bytes)
  | write (offered : Bytes) (outcome : Except Fault Nat)
  | flush (fault : Option Fault)
  | shutdown (fault : Option Fault)
  | release

/-- A scripted transport. -/
structure Transport where
  /-- Who is at the other end. -/
  peer : String
  incoming : Source
  /-- What becomes of each write; any further write takes everything. -/
  outgoing : List Transport.Intake
  /-- How each setting of the time limit ends; any further one succeeds. -/
  timeoutFaults : List (Option Fault)
  /-- How each flush ends; any further one succeeds. -/
  flushFaults : List (Option Fault)
  /-- How each shutdown ends; any further one succeeds. -/
  shutdownFaults : List (Option Fault)
  clock : Clock
  /-- Everything that was done to the transport, the latest first. -/
  journal : List Transport.Call

namespace Transport

def Call.sent : Call → Bytes
  | .write offered (.ok taken) => offered.take taken
  | _ => []

/-- The bytes that the calls of a journal have sent, in the order of sending. -/
def sentBy (journal : List Call) : Bytes :=
  journal.reverse.flatMap Call.sent

def sent (transport : Transport) : Bytes :=
  sentBy transport.journal

def unread (transport : Transport) : Nat :=
  transport.incoming.unread

/-- What the transport still has to give to its readers: what arrives, and the time limits that will
fail. -/
def budget (transport : Transport) : Nat :=
  transport.incoming.budget + transport.timeoutFaults.length

def enter (transport : Transport) (call : Call) : Transport :=
  { transport with journal := call :: transport.journal }

def readClock (transport : Transport) : Instant × Transport :=
  let now := transport.clock.now
  (now,
    { transport with clock := transport.clock.tick, journal := .clock now :: transport.journal })

/-- Asks for at most `asked` bytes. -/
def read (asked : Nat) : EStateM Fault Transport Bytes := fun transport =>
  match transport.incoming.read asked with
  | .ok data rest =>
      .ok data { transport with
        incoming := rest, journal := .read asked (.ok data) :: transport.journal }
  | .error fault rest =>
      .error fault { transport with
        incoming := rest, journal := .read asked (.error fault) :: transport.journal }

def write (offered : Bytes) : EStateM Fault Transport Nat := fun transport =>
  match transport.outgoing with
  | [] =>
      .ok offered.length (transport.enter (.write offered (.ok offered.length)))
  | .accept count :: rest =>
      let taken := min count offered.length
      .ok taken { transport with
        outgoing := rest, journal := .write offered (.ok taken) :: transport.journal }
  | .fault fault :: rest =>
      .error fault { transport with
        outgoing := rest, journal := .write offered (.error fault) :: transport.journal }

def conclude (fault : Option Fault) : EStateM Fault Transport Unit := fun transport =>
  match fault with
  | none => .ok () transport
  | some fault => .error fault transport

/-- Sets how long each further call may take, or lifts the limit. -/
def setTimeout (limit : Option Duration) : EStateM Fault Transport Unit := fun transport =>
  let fault := transport.timeoutFaults.head?.join
  conclude fault { transport with
    timeoutFaults := transport.timeoutFaults.tail
    journal := .setTimeout limit fault :: transport.journal }

def flush : EStateM Fault Transport Unit := fun transport =>
  let fault := transport.flushFaults.head?.join
  conclude fault { transport with
    flushFaults := transport.flushFaults.tail
    journal := .flush fault :: transport.journal }

def shutdown : EStateM Fault Transport Unit := fun transport =>
  let fault := transport.shutdownFaults.head?.join
  conclude fault { transport with
    shutdownFaults := transport.shutdownFaults.tail
    journal := .shutdown fault :: transport.journal }

def release (transport : Transport) : Transport :=
  transport.enter .release

def released (transport : Transport) : Bool :=
  transport.journal.any fun
    | .release => true
    | _ => false

/-- The last time limit that was asked for, if any was. -/
def timeLimit? (transport : Transport) : Option (Option Duration) :=
  transport.journal.findSome? fun
    | .setTimeout limit _ => some limit
    | _ => none

def flushes (transport : Transport) : Nat :=
  transport.journal.countP fun
    | .flush _ => true
    | _ => false

def shutdowns (transport : Transport) : Nat :=
  transport.journal.countP fun
    | .shutdown _ => true
    | _ => false

/-- The number of bytes offered to each write of a journal, in the order of writing. -/
def writeSizes (journal : List Call) : List Nat :=
  journal.reverse.filterMap fun
    | .write offered _ => some offered.length
    | _ => none

/-- The number of bytes asked for by each read of a journal, in the order of reading. -/
def readSizes (journal : List Call) : List Nat :=
  journal.reverse.filterMap fun
    | .read asked _ => some asked
    | _ => none

/-- The calls that were made after a journal had reached a length. -/
def since (transport : Transport) (length : Nat) : List Call :=
  transport.journal.take (transport.journal.length - length)

/-- Only the data are paid for by a successful read. -/
theorem budget_of_read_ok {asked : Nat} {before after : Transport} {data : Bytes}
    (done : read asked before = .ok data after) : after.budget + data.length ≤ before.budget := by
  simp only [read] at done
  split at done
  · next step =>
    cases done
    have paid := Source.budget_of_read_ok step
    simp only [budget]
    omega
  · cases done

/-- A failed read takes its step out of what arrives. -/
theorem budget_of_read_error {asked : Nat} {before after : Transport} {fault : Fault}
    (failed : read asked before = .error fault after) : after.budget < before.budget := by
  simp only [read] at failed
  split at failed
  · cases failed
  · next step =>
    cases failed
    have paid := Source.budget_of_read_error step
    simp only [budget]
    omega

/-- No more is read than was asked for. -/
theorem length_le_of_read_ok {asked : Nat} {before after : Transport} {data : Bytes}
    (done : read asked before = .ok data after) : data.length ≤ asked := by
  simp only [read] at done
  split at done
  · next step =>
    cases done
    exact Source.length_le_of_read_ok step
  · cases done

def reader : Reader Transport where
  read := read
  budget := budget
  budget_of_ok := budget_of_read_ok
  budget_of_error failed := Nat.le_of_lt (budget_of_read_error failed)
  budget_of_interrupted failed _ := budget_of_read_error failed
  length_le := length_le_of_read_ok

end Transport

end Switchboard
