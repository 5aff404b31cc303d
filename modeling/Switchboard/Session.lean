import Switchboard.Connection.Framing
import Switchboard.Event
import Switchboard.Registry

/-!
# Serving one connection

A session serves one connection, one message after the other. Each round sets the deadline for
idling anew, reads a header and looks the endpoint up. A request is read, answered and followed by
the next round; a stream is handed to its handler and ends the session, and so does a peer that goes
away while a header is awaited. Everything else that goes wrong ends the session with an error.

`dispatch` repeats `round`. It ends because a round that is followed by another one has read a
header, and the bytes of the header are gone from the connection's budget (`budget_of_round`).

A session keeps a record of the handlers that were invoked, and of the events that tell about it if
the rules ask for them. Nothing that a session does depends on either.
-/

namespace Switchboard

/-- The rules by which connections are served. -/
structure Rules where
  registry : Registry
  /-- How long a peer may be idle; zero means for ever, too. -/
  idleLimit : Option Duration
  bodyLimit : Option UInt64
  log : Bool

/-- A handler that was invoked. -/
inductive Invocation
  /-- A handler of requests, with the body of the request and what came of it. -/
  | request (title : String) (header : Header) (body : Bytes) (answer : RequestHandler.Answer)
  | stream (title : String) (header : Header)

/-- A session, as far as it has come. -/
structure Session where
  connection : Connection
  invocations : List Invocation
  events : List Event

namespace Session

variable {α : Type}

/-- Why a session ends before its peer wants it to. -/
inductive Halt
  | failure (error : Error)
  | crash (reason : String)
  deriving DecidableEq, Repr

/-- The end of a session whose handler went wrong. -/
def Halt.ofTrouble : Trouble → Halt
  | .failed reason => .failure (.handler reason)
  | .crashed reason => .crash reason

/-- What follows a round. -/
inductive Next
  | again
  | over
  deriving DecidableEq, Repr

/-- What breaks off when a deadline would lie beyond the end of time. -/
def beyondTime : String := "overflow when adding duration to instant"

/-- A step of a session that only concerns the connection. -/
def onConnection (action : EStateM Error Connection α) : EStateM Halt Session α := fun session =>
  match action session.connection with
  | .ok value connection => .ok value { session with connection }
  | .error error connection => .error (.failure error) { session with connection }

def tell (rules : Rules) (event : Event) : EStateM Halt Session Unit := fun session =>
  .ok () (if rules.log then { session with events := session.events ++ [event] } else session)

def record (invocation : Invocation) : EStateM Halt Session Unit := fun session =>
  .ok () { session with invocations := session.invocations ++ [invocation] }

def readClock : EStateM Halt Session Instant := fun session =>
  let (now, transport) := session.connection.transport.readClock
  .ok now { session with connection := { session.connection with transport } }

/-- Sets the deadline for idling anew. -/
def armIdle (rules : Rules) : EStateM Halt Session Unit :=
  match rules.idleLimit with
  | none => pure ()
  | some limit =>
      if limit.isZero then pure ()
      else do
        let now ← readClock
        match now.later? limit with
        | some deadline => onConnection (Connection.setDeadline deadline)
        | none => throw (.crash beyondTime)

/-- Awaits a header. A peer that goes away meanwhile sends none. -/
def awaitHeader : EStateM Halt Session (Option Header) := fun session =>
  match Connection.readHeader session.connection with
  | .ok header connection => .ok (some header) { session with connection }
  | .error error connection =>
      if error.isDisconnect then .ok none { session with connection }
      else .error (.failure error) { session with connection }

def invoke (handler : RequestHandler) (header : Header) (body : Bytes) :
    EStateM Halt Session Bytes := do
  let answer := handler.answer header body
  record (.request handler.title header body answer)
  match answer.trouble with
  | none => pure answer.output
  | some trouble => throw (.ofTrouble trouble)

def handleRequest (rules : Rules) (header : Header) : EStateM Halt Session Unit :=
  match rules.registry.request? header.endpoint with
  | none => throw (.failure (.invalidEndpoint header.endpoint))
  | some handler => do
      let body ← onConnection (Connection.readBody header)
      let output ← invoke handler header body
      let _ ← onConnection (Connection.writeFramed header.endpoint output)
      tell rules (.served header.endpoint body.length output.length)

/-- Lets a handler of streams work on the connection. -/
def handOver (handler : StreamHandler) (header : Header) :
    EStateM Halt Session Unit := fun session =>
  match handler.run header session.connection with
  | .ok () connection => .ok () { session with connection }
  | .error trouble connection => .error (.ofTrouble trouble) { session with connection }

def handleStream (rules : Rules) (header : Header) : EStateM Halt Session Unit :=
  match rules.registry.stream? header.endpoint with
  | none => throw (.failure (.invalidEndpoint header.endpoint))
  | some handler => do
      tell rules (.handedOver header.endpoint)
      record (.stream handler.title header)
      handOver handler header

def route (rules : Rules) (header : Header) : EStateM Halt Session Next :=
  match header.kind with
  | some .request => do
      handleRequest rules header
      pure .again
  | some .stream => do
      handleStream rules header
      pure .over
  | none => throw (.failure (.invalidEndpointType header.tag))

/-- One round: awaits a header and serves its message. -/
def round (rules : Rules) : EStateM Halt Session Next := do
  armIdle rules
  match ← awaitHeader with
  | none => pure .over
  | some header => route rules header

/-! ## A round is paid for -/

/-- What the connection of a session still has to give. -/
def budget (session : Session) : Nat :=
  session.connection.budget

def settled {ε : Type} : EStateM.Result ε Session α → Session
  | .ok _ session => session
  | .error _ session => session

/-- A step that never adds to the budget. -/
def Thrifty (action : EStateM Halt Session α) : Prop :=
  ∀ before, (settled (action before)).budget ≤ before.budget

theorem Thrifty.pure (value : α) : Thrifty (Pure.pure value) :=
  fun _ => Nat.le_refl _

theorem Thrifty.throw (halt : Halt) : Thrifty (throw halt : EStateM Halt Session α) :=
  fun _ => Nat.le_refl _

theorem Thrifty.bind {β : Type} {first : EStateM Halt Session α}
    {next : α → EStateM Halt Session β} (thriftyFirst : Thrifty first)
    (thriftyNext : ∀ value, Thrifty (next value)) : Thrifty (first >>= next) := by
  intro before
  have paidFirst := thriftyFirst before
  simp only [Bind.bind, EStateM.bind]
  cases step : first before with
  | ok value middle =>
      rw [step] at paidFirst
      exact Nat.le_trans (thriftyNext value middle) paidFirst
  | error halt after =>
      rw [step] at paidFirst
      exact paidFirst

theorem thrifty_tell (rules : Rules) (event : Event) : Thrifty (tell rules event) := by
  intro before
  simp only [tell, settled, budget]
  split <;> exact Nat.le_refl _

theorem thrifty_record (invocation : Invocation) : Thrifty (record invocation) :=
  fun _ => Nat.le_refl _

theorem thrifty_onConnection {action : EStateM Error Connection α}
    (thrifty : Connection.Thrifty action) : Thrifty (onConnection action) := by
  intro before
  have paid := thrifty before.connection
  simp only [onConnection, budget]
  cases step : action before.connection with
  | ok value after =>
      rw [step] at paid
      exact paid
  | error error after =>
      rw [step] at paid
      exact paid

theorem thrifty_setDeadline (deadline : Instant) :
    Connection.Thrifty (Connection.setDeadline deadline) := by
  intro before
  unfold Connection.setDeadline Connection.ensureOpen
  cases before.closed <;> exact Nat.le_refl _

theorem thrifty_armIdle (rules : Rules) : Thrifty (armIdle rules) := by
  unfold armIdle
  split
  · exact .pure _
  · split
    · exact .pure _
    · refine Thrifty.bind (fun _ => Nat.le_refl _) fun now => ?_
      split
      · exact thrifty_onConnection (thrifty_setDeadline _)
      · exact .throw _

theorem thrifty_invoke (handler : RequestHandler) (header : Header) (body : Bytes) :
    Thrifty (invoke handler header body) := by
  refine (thrifty_record _).bind fun _ => ?_
  split
  · exact .pure _
  · exact .throw _

theorem thrifty_handleRequest (rules : Rules) (header : Header) :
    Thrifty (handleRequest rules header) := by
  unfold handleRequest
  split
  · exact .throw _
  · exact (thrifty_onConnection (Connection.thrifty_readBody _)).bind fun _ =>
      (thrifty_invoke _ _ _).bind fun _ =>
        (thrifty_onConnection (Connection.thrifty_writeFramed _ _)).bind fun _ =>
          thrifty_tell _ _

/-- A round that is followed by another one has paid for a header. -/
theorem budget_of_round {rules : Rules} {before after : Session}
    (done : round rules before = .ok .again after) : after.budget < before.budget := by
  simp only [round, Bind.bind, EStateM.bind] at done
  have armed := thrifty_armIdle rules before
  cases arming : armIdle rules before with
  | error halt stopped =>
      rw [arming] at done
      cases done
  | ok _ ready =>
      rw [arming] at done armed
      dsimp only at done
      simp only [awaitHeader] at done
      cases reading : Connection.readHeader ready.connection with
      | error error stopped =>
          rw [reading] at done
          dsimp only at done
          cases gone : error.isDisconnect <;> simp [gone, Pure.pure, EStateM.pure] at done
      | ok header connection =>
          rw [reading] at done
          dsimp only at done
          have paid := Connection.budget_of_readHeader_ok reading
          have width : 0 < Header.width := by decide
          simp only [settled, budget] at armed ⊢
          cases asked : header.kind with
          | none =>
              simp only [route, asked] at done
              cases done
          | some kind =>
              cases kind with
              | request =>
                  simp only [route, asked, Bind.bind, EStateM.bind] at done
                  have kept := thrifty_handleRequest rules header { ready with connection }
                  cases serving : handleRequest rules header { ready with connection } with
                  | error halt stopped =>
                      rw [serving] at done
                      cases done
                  | ok _ served =>
                      rw [serving] at done kept
                      cases done
                      simp only [settled, budget] at kept
                      omega
              | stream =>
                  simp only [route, asked, Bind.bind, EStateM.bind] at done
                  cases serving : handleStream rules header { ready with connection } with
                  | error halt stopped =>
                      rw [serving] at done
                      cases done
                  | ok _ served =>
                      rw [serving] at done
                      cases done

/-! ## The whole session -/

/-- Serves one message after the other until there is a reason to stop. -/
def dispatch (rules : Rules) (session : Session) : EStateM.Result Halt Session Unit :=
  match _ : round rules session with
  | .ok .again after => dispatch rules after
  | .ok .over after => .ok () after
  | .error halt after => .error halt after
termination_by session.budget
decreasing_by exact budget_of_round ‹_›

/-- The session of a connection before anything has happened. -/
def opening (rules : Rules) (connection : Connection) : Session :=
  ⟨connection.withBodyLimit rules.bodyLimit, [], []⟩

/-- What a session was in the end. -/
structure Report where
  session : Session
  crash : Option String

def released (session : Session) : Session :=
  { session with connection := session.connection.release }

/-- The session with more events, if the rules ask for events. -/
def telling (rules : Rules) (events : List Event) (session : Session) : Session :=
  if rules.log then { session with events := session.events ++ events } else session

/-- How a session ends: its connection is released and, unless it broke off, the end is told. -/
def conclude (rules : Rules) (peer : String) : EStateM.Result Halt Session Unit → Report
  | .ok () session => ⟨(released session).telling rules [.disconnected peer], none⟩
  | .error (.failure error) session =>
      ⟨(released session).telling rules [.failed peer error, .disconnected peer], none⟩
  | .error (.crash reason) session => ⟨released session, some reason⟩

def run (rules : Rules) (connection : Connection) : Report :=
  let peer := connection.transport.peer
  conclude rules peer
    (dispatch rules ((opening rules connection).telling rules [.connected peer]))

end Session

end Switchboard
