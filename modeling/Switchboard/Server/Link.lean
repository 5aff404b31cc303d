import Switchboard.Session

/-!
# Links between a peer and a server

A link joins a peer to a server on the same machine. Whatever the peer sends has arrived at the
server at once, and whatever the server answers has arrived at the peer.

How far the server comes with a connection is found by serving everything that has arrived so far. A
read that finds nothing although the peer has not ended its stream is one at which the server waits,
so only what comes before it has happened (`Work.of`). When more has arrived, everything is served
again, and the same things happen first.

A side that goes away leaves an end of stream behind. If it has not read everything, the other side
is told first that the connection was reset. Nothing can be written to a side that is gone.
-/

namespace Switchboard

/-- What a server has done for a connection with what has arrived. -/
structure Work where
  session : Session
  /-- What was done to the transport before the server had to wait, the latest first. -/
  calls : List Transport.Call
  /-- How the session ended, if it did not have to wait. -/
  report : Option Session.Report
  /-- Why the session was halted, if it was. -/
  halt : Option Session.Halt

namespace Work

/-- A read that asked for something and got nothing. -/
def isDry : Transport.Call → Bool
  | .read asked (.ok []) => 0 < asked
  | _ => false

/-- The peer has ended its stream, or something has happened to it. -/
def endsIn (arrived : Source) : Bool :=
  arrived.any fun
    | .data .. => false
    | _ => true

def haltOf : EStateM.Result Session.Halt Session Unit → Option Session.Halt
  | .ok () _ => none
  | .error halt _ => some halt

def of (rules : Rules) (connection : Connection) : Work :=
  let peer := connection.transport.peer
  let result :=
    Session.dispatch rules ((Session.opening rules connection).telling rules [.connected peer])
  let session := Session.settled result
  let journal := session.connection.transport.journal
  if !endsIn connection.transport.incoming && journal.any isDry then
    ⟨session, (journal.reverse.takeWhile (!isDry ·)).reverse, none, none⟩
  else
    let report := Session.conclude rules peer result
    ⟨report.session, journal, some report, haltOf result⟩

/-- The number of requests that have got as far as a handler. -/
def requests (work : Work) : Nat :=
  work.session.invocations.countP fun
    | .request .. => true
    | .stream .. => false

end Work

/-- Where the server's side of a link has come to. -/
inductive Link.Side
  | queued
  /-- It is the connection with a number and waits for its peer. -/
  | waiting (number : Nat)
  | over (number : Nat)
  /-- It was never accepted, and the server is gone. -/
  | refused
  | absent
  deriving DecidableEq, Repr

/-- A peer and what the server has to do with it. -/
structure Link where
  /-- What the peer is called, as long as there is one. -/
  name : Option String
  peer : Connection
  /-- The peer sends no more, but may still read. -/
  muted : Bool
  /-- Everything that the peer has sent, and how it went away. -/
  arrived : Source
  outgoing : List Transport.Intake
  side : Link.Side
  /-- How many of the server's bytes were given to the peer. -/
  delivered : Nat
  /-- What the server has done, if it has done anything. -/
  work : Option Work
  /-- When the server last began to wait for a header, in nanoseconds. -/
  since : Nat

namespace Link

variable {α : Type}

/-- A broken pipe: nobody reads what is written. -/
def nobodyReads : Fault := .system 32

/-- The other side went away without having read everything. -/
def reset : Fault := .system 104

/-- There has never been another side. -/
def unconnected : Fault := .system 107

/-- A call took longer than the transport allows. -/
def tooLate : Fault := .system 11

/-- What a server calls the peers of its own machine. -/
def unnamedPeer : String := "unix:(unnamed)"

/-- The reading of the clock with which everything is served. Deadlines are watched elsewhere. -/
def clock : Clock := .stopped ⟨1000 * nanosPerSecond, by decide⟩

def transport (peer : String) : Transport where
  peer := peer
  incoming := []
  outgoing := []
  timeoutFaults := []
  flushFaults := []
  shutdownFaults := []
  clock := clock
  journal := []

/-- A link to a server at an address. A raw peer does not know what it has dialled. -/
def dialling (name address : String) (raw : Bool) : Link where
  name := some name
  peer :=
    { Connection.ofTransport (transport address) with
      dialled := if raw then none else some (.unix, address) }
  muted := false
  arrived := []
  outgoing := []
  side := .queued
  delivered := 0
  work := none
  since := 0

/-- A peer that has dialled in vain. -/
def stranded (name address : String) : Link :=
  { dialling name address true with side := .absent }

def isWaiting (link : Link) : Bool :=
  match link.side with
  | .waiting _ => true
  | _ => false

/-- The server waits for the peer, but not for ever. -/
def isTimed (link : Link) : Bool :=
  link.isWaiting && link.work.any (·.session.connection.deadline.isSome)

/-- What a side leaves behind that goes away. -/
def farewell (unread : Nat) : Source :=
  (if 0 < unread then [.fault reset] else []) ++ [.ended]

def serverEnd (link : Link) : Connection :=
  .ofTransport { transport unnamedPeer with incoming := link.arrived, outgoing := link.outgoing }

/-- Gives the peer what the server has sent, and what it leaves behind if it is done. -/
def deliver (link : Link) (work : Work) : Link :=
  let sent := Transport.sentBy work.calls
  let left := match work.report with
    | none => []
    | some report => farewell report.session.connection.transport.unread
  let incoming :=
    link.peer.transport.incoming ++ Source.ofBytes (sent.drop link.delivered) ++ left
  { link with
    peer := { link.peer with transport := { link.peer.transport with incoming } }
    delivered := sent.length }

/-- Lets the server serve what has arrived, if it has accepted the link. -/
def serve (rules : Rules) (now : Nat) (link : Link) : Link :=
  match link.side with
  | .waiting number =>
      let work := Work.of rules link.serverEnd
      let before := (link.work.map (·.requests)).getD 0
      { link.deliver work with
        work := some work
        since := if before < work.requests then now else link.since
        side := if work.report.isSome then .over number else .waiting number }
  | _ => link

/-- The server accepts the link as the connection with a number. -/
def accept (number now : Nat) (link : Link) : Link :=
  { link with side := .waiting number, since := now }

/-- The server is gone before it has accepted the link. -/
def refuse (link : Link) : Link :=
  match link.side with
  | .queued =>
      { link with
        side := .refused
        peer :=
          { link.peer with
            transport :=
              { link.peer.transport with
                incoming := link.peer.transport.incoming ++ [.fault reset, .ended] } } }
  | _ => link

/-- The server finds that the peer has been idle for too long. -/
def expire (link : Link) : Link :=
  { link with arrived := link.arrived ++ [.fault tooLate] }

/-- Whatever the server writes from now on fails. -/
def deafen (link : Link) : Link :=
  let writes := (link.work.map fun work => (Transport.writeSizes work.calls).length).getD 0
  { link with outgoing := List.replicate writes (.accept UInt64.size) ++ [.fault nobodyReads] }

/-- The peer has ended its stream and does not read, either. -/
def hangUp (link : Link) (left : Source) : Link :=
  { link.deafen with arrived := link.arrived ++ left, muted := true }

/-- The peer shuts down the direction in which it sends, and may still read. Only a raw peer can do
that. -/
def halfClose (link : Link) : Link :=
  if link.peer.dialled.isSome then link
  else { link with arrived := link.arrived ++ [.ended], muted := true }

def release (link : Link) : Link :=
  { link.hangUp (farewell link.peer.transport.unread) with
    name := none
    peer := link.peer.release }

/-- The peer's end as it meets the present state of the link. -/
def ready (link : Link) : Connection :=
  let nobody := link.muted || !(link.side == .queued || link.isWaiting)
  let transport := link.peer.transport
  { link.peer with
    transport :=
      { transport with
        outgoing := if nobody then [.fault nobodyReads] else []
        incoming := if link.side == .absent then [.fault unconnected] else transport.incoming } }

/-- The peer does something with its end. Whatever it sends arrives at the server; if it closes its
end, the server will notice that. -/
def act (action : Connection → α × Connection) (link : Link) : α × Link :=
  let before := link.ready
  let (value, after) := action before
  let sent := Transport.sentBy (after.transport.since before.transport.journal.length)
  let later := { link with peer := after, arrived := link.arrived ++ Source.ofBytes sent }
  (value, if after.closed && !before.closed then later.hangUp [.ended] else later)

/-- What the peer would do makes it wait for the server. -/
def wouldWait (action : Connection → α × Connection) (link : Link) : Bool :=
  let before := link.ready
  let after := (action before).2
  !Work.endsIn before.transport.incoming &&
    (after.transport.since before.transport.journal.length).any Work.isDry

def events (link : Link) : List Event :=
  match link.side, link.work with
  | .over number, some work =>
      work.session.events ++
        (if (work.report.bind (·.crash)).isSome then [.crashed number] else [])
  | _, some work => work.session.events
  | _, none => []

/-- The number of the connection, if the link was accepted. -/
def number? (link : Link) : Option Nat :=
  match link.side with
  | .waiting number => some number
  | .over number => some number
  | _ => none

end Link

end Switchboard
