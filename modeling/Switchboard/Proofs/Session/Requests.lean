import Switchboard.Proofs.Connection.Messages
import Switchboard.Session

/-!
# What serving a request does

A request is read, its handler is invoked, and the answer is sent. Each of these steps can fail, and
then the session ends where it is. `Handled` lists everything that can happen, on any connection and
with any script; whoever reasons about sessions goes through these cases and never opens the steps
again.
-/

namespace Switchboard.Session

open Connection (Kept ReadKept WriteKept Refuses bodyError)

def sent (session : Session) : Bytes :=
  session.connection.transport.sent

/-- What arrives, up to the first stop. -/
def outlook (session : Session) : Source.Outlook :=
  session.connection.outlook

/-- A request as it arrived: the bytes of its header, its body, and the handler that is registered
for the name in the header. -/
structure Request where
  head : Bytes
  body : Bytes
  handler : RequestHandler

namespace Request

def header (request : Request) : Header :=
  .ofBytes request.head

def answer (request : Request) : RequestHandler.Answer :=
  request.handler.answer request.header request.body

def invocation (request : Request) : Invocation :=
  .request request.handler.title request.header request.body request.answer

/-- The answer in its frame. -/
def response (request : Request) : Bytes :=
  Connection.frame request.header.endpoint request.answer.output

def wire (request : Request) : Bytes :=
  request.head ++ request.body

/-- The event that tells about an answered request. -/
def event (request : Request) : Event :=
  .served request.header.endpoint request.body.length request.answer.output.length

/-- The request was read as its header says, and belongs to its handler. -/
structure Proper (request : Request) (registry : Registry) (limit : Option UInt64) : Prop where
  width : request.head.length = Header.width
  kind : request.header.kind = some .request
  registered : registry.request? request.header.endpoint = some request.handler
  length : request.body.length = request.header.bodySize.toNat
  within : ∀ bound, limit = some bound → request.header.bodySize ≤ bound

end Request

/-! ## Handlers and their answers -/

/-- The session after a handler was invoked on a connection. -/
def invoked (connection : Connection) (invocation : Invocation) (session : Session) : Session :=
  { session with connection, invocations := session.invocations ++ [invocation] }

theorem invoke_of_trouble {handler : RequestHandler} {header : Header} {body : Bytes}
    {trouble : Trouble} (troubled : (handler.answer header body).trouble = some trouble)
    (session : Session) :
    invoke handler header body session =
      .error (.ofTrouble trouble) (session.invoked session.connection
        (.request handler.title header body (handler.answer header body))) := by
  simp only [invoke, record, Bind.bind, EStateM.bind, troubled]
  rfl

theorem invoke_of_no_trouble {handler : RequestHandler} {header : Header} {body : Bytes}
    (fine : (handler.answer header body).trouble = none) (session : Session) :
    invoke handler header body session =
      .ok (handler.answer header body).output (session.invoked session.connection
        (.request handler.title header body (handler.answer header body))) := by
  simp only [invoke, record, Bind.bind, EStateM.bind, fine]
  rfl

/-- A request was read from the bytes that a session had in view, and its handler was invoked. -/
structure Reached (rules : Rules) (head : Bytes) (before : Session) (request : Request)
    (connection : Connection) : Prop where
  head : request.head = head
  known : rules.registry.request? request.header.endpoint = some request.handler
  within : ∀ limit, before.connection.bodyLimit = some limit → request.header.bodySize ≤ limit
  enough : request.header.bodySize.toNat ≤ before.outlook.data.length
  body : request.body = before.outlook.data.take request.header.bodySize.toNat
  kept : Kept before.connection connection
  left : connection.outlook = before.outlook.drop request.header.bodySize.toNat

/-- Everything that serving a request can do. -/
inductive Handled (rules : Rules) (head : Bytes) (before : Session) :
    EStateM.Result Halt Session Unit → Prop
  | unknown (unregistered : rules.registry.request? (Header.ofBytes head).endpoint = none) :
      Handled rules head before
        (.error (.failure (.invalidEndpoint (Header.ofBytes head).endpoint)) before)
  | oversized {handler : RequestHandler} {limit : UInt64}
      (known : rules.registry.request? (Header.ofBytes head).endpoint = some handler)
      (limited : before.connection.bodyLimit = some limit)
      (long : limit < (Header.ofBytes head).bodySize) :
      Handled rules head before
        (.error (.failure (.bodyTooLarge (Header.ofBytes head).bodySize limit)) before)
  | missing {handler : RequestHandler} {connection : Connection}
      (known : rules.registry.request? (Header.ofBytes head).endpoint = some handler)
      (within : ∀ limit, before.connection.bodyLimit = some limit →
        (Header.ofBytes head).bodySize ≤ limit)
      (short : before.outlook.data.length < (Header.ofBytes head).bodySize.toNat)
      (kept : ReadKept before.connection connection)
      (left : connection.transport.incoming = before.outlook.later) :
      Handled rules head before
        (.error (.failure (bodyError (Header.ofBytes head).bodySize before.outlook))
          { before with connection })
  | refused {connection : Connection} {fault : Fault} (refuses : Refuses before.connection fault)
      (kept : ReadKept before.connection connection) :
      Handled rules head before (.error (.failure (.io fault)) { before with connection })
  | troubled {request : Request} {connection : Connection} {trouble : Trouble}
      (reached : Reached rules head before request connection)
      (wrong : request.answer.trouble = some trouble)
      (silent : connection.transport.sent = before.sent) :
      Handled rules head before
        (.error (.ofTrouble trouble) (before.invoked connection request.invocation))
  | unsent {request : Request} {connection : Connection} {fault : Fault} {count : Nat}
      (reached : Reached rules head before request connection)
      (fine : request.answer.trouble = none) (short : count < request.response.length)
      (part : connection.transport.sent = before.sent ++ request.response.take count)
      (refuses : before.connection.transport.Willing → Refuses before.connection fault) :
      Handled rules head before
        (.error (.failure (.io fault)) (before.invoked connection request.invocation))
  | served {request : Request} {connection : Connection}
      (reached : Reached rules head before request connection)
      (fine : request.answer.trouble = none)
      (whole : connection.transport.sent = before.sent ++ request.response) :
      Handled rules head before
        (.ok () ((before.invoked connection request.invocation).telling rules [request.event]))

theorem tell_eq (rules : Rules) (event : Event) (session : Session) :
    tell rules event session = .ok () (session.telling rules [event]) := rfl

/-- What is told about a session is no part of its connection. -/
@[simp]
theorem connection_telling (rules : Rules) (events : List Event) (session : Session) :
    (session.telling rules events).connection = session.connection := by
  unfold telling
  split <;> rfl

@[simp]
theorem invocations_telling (rules : Rules) (events : List Event) (session : Session) :
    (session.telling rules events).invocations = session.invocations := by
  unfold telling
  split <;> rfl

/-- Sending something afterwards changes nothing of what was reached. -/
theorem Reached.write {rules : Rules} {head : Bytes} {before : Session} {request : Request}
    {connection after : Connection} (reached : Reached rules head before request connection)
    (kept : WriteKept connection after) : Reached rules head before request after where
  head := reached.head
  known := reached.known
  within := reached.within
  enough := reached.enough
  body := reached.body
  kept := reached.kept.trans kept.toKept
  left := by rw [← reached.left, Connection.outlook, Connection.outlook, kept.incoming]

theorem onConnection_of_ok {α : Type} {action : EStateM Error Connection α} {session : Session}
    {value : α} {connection : Connection}
    (done : action session.connection = .ok value connection) :
    onConnection action session = .ok value { session with connection } := by
  rw [onConnection, done]

theorem onConnection_of_error {α : Type} {action : EStateM Error Connection α} {session : Session}
    {error : Error} {connection : Connection}
    (failed : action session.connection = .error error connection) :
    onConnection action session = .error (.failure error) { session with connection } := by
  rw [onConnection, failed]

theorem bind_of_ok {α β : Type} {first : EStateM Halt Session α} {next : α → EStateM Halt Session β}
    {before middle : Session} {value : α} (done : first before = .ok value middle) :
    (first >>= next) before = next value middle := by
  simp only [Bind.bind, EStateM.bind, done]

theorem bind_of_error {α β : Type} {first : EStateM Halt Session α}
    {next : α → EStateM Halt Session β} {before after : Session} {halt : Halt}
    (failed : first before = .error halt after) : (first >>= next) before = .error halt after := by
  simp only [Bind.bind, EStateM.bind, failed]

/-- A request whose body was read goes to its handler, and then the answer is sent. -/
theorem handled_of_body {rules : Rules} {request : Request} {before : Session}
    {connection : Connection} (isOpen : before.connection.closed = false)
    (reached : Reached rules request.head before request connection)
    (read : Connection.readBody request.header before.connection = .ok request.body connection)
    (kept : ReadKept before.connection connection) :
    Handled rules request.head before (handleRequest rules request.header before) := by
  simp only [handleRequest, reached.known]
  rw [bind_of_ok (onConnection_of_ok read)]
  cases outcome : request.answer.trouble with
  | some trouble =>
      rw [bind_of_error (invoke_of_trouble outcome _)]
      exact Handled.troubled reached outcome kept.sent
  | none =>
      rw [bind_of_ok (invoke_of_no_trouble outcome _)]
      rcases Connection.writeMessage_cases (kept.closed.trans isOpen) request.response with
        ⟨after, done, later, sent⟩ | ⟨fault, after, count, failed, later, short, sent, refuses⟩
      · rw [kept.sent] at sent
        rw [bind_of_ok (onConnection_of_ok done), tell_eq]
        exact Handled.served (reached.write later) outcome sent
      · rw [kept.sent] at sent
        rw [bind_of_error (onConnection_of_error failed)]
        exact Handled.unsent (reached.write later) outcome short sent fun willing =>
          kept.toKept.refuses (refuses (kept.willing willing))

/-- Serving a request does one of these things. -/
theorem handled (rules : Rules) (head : Bytes) {before : Session}
    (isOpen : before.connection.closed = false) :
    Handled rules head before (handleRequest rules (.ofBytes head) before) := by
  cases known : rules.registry.request? (Header.ofBytes head).endpoint with
  | none =>
      simp only [handleRequest, known]
      exact Handled.unknown known
  | some handler =>
      by_cases oversized : ∃ limit, before.connection.bodyLimit = some limit ∧
          limit < (Header.ofBytes head).bodySize
      · rcases oversized with ⟨limit, limited, long⟩
        simp only [handleRequest, known]
        rw [bind_of_error (onConnection_of_error (Connection.readBody_of_over isOpen limited long))]
        exact Handled.oversized known limited long
      · have within : ∀ limit, before.connection.bodyLimit = some limit →
            (Header.ofBytes head).bodySize ≤ limit := fun limit limited =>
          UInt64.not_lt.mp fun long => oversized ⟨limit, limited, long⟩
        have owed := Connection.readBody_of_within isOpen within
        rcases Connection.readOwed_cases (Header.ofBytes head).bodySize before.connection with
          ⟨connection, done, enough, kept, left⟩ | ⟨connection, failed, short, kept, left⟩ |
          ⟨fault, connection, failed, refuses, kept⟩
        · let request : Request :=
            ⟨head, before.outlook.data.take (Header.ofBytes head).bodySize.toNat, handler⟩
          have reached : Reached rules request.head before request connection :=
            ⟨rfl, known, within, enough, rfl, kept.toKept, left⟩
          exact handled_of_body isOpen reached (owed.trans done) kept
        · simp only [handleRequest, known]
          rw [bind_of_error (onConnection_of_error (owed.trans failed))]
          exact Handled.missing known within short kept left
        · simp only [handleRequest, known]
          rw [bind_of_error (onConnection_of_error (owed.trans failed))]
          exact Handled.refused refuses kept

end Switchboard.Session
