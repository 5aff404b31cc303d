import Switchboard.Proofs.Session.Requests
import Switchboard.Session.Exchange

/-!
# What a round does

A round arms the deadline, awaits a header and serves its message. `Rounded` lists everything that
can come of it. Deadlines are set anew in every round, so what can be said before a session about
the deadlines in it is said about all readings of the clock (`MayExpire`).

A session that hands its connection over does so at one point, and what follows is up to the handler
of streams. So a session is looked at up to this point: it comes to an ending, and
`Exchange.Ending.finish` says what the ending makes of it.
-/

namespace Switchboard

namespace Exchange.Ending

/-- What becomes of a session that has come to an ending. -/
def finish : Ending → Session → EStateM.Result Session.Halt Session Unit
  | .over, session => .ok () session
  | .halted halt, session => .error halt session
  | .handedOver handler header, session => Session.handOver handler header session

/-- The round in which a session comes to an ending. -/
def stop (ending : Ending) (session : Session) : EStateM.Result Session.Halt Session Session.Next :=
  match ending.finish session with
  | .ok () after => .ok .over after
  | .error halt after => .error halt after

/-- What becomes of a session that is told why no header came. -/
def ofHeaderError (error : Error) : Ending :=
  if error.isDisconnect then .over else .halted (.failure error)

end Exchange.Ending

/-- How long every round lets its peer idle, unless it does so for ever. -/
def Rules.patience (rules : Rules) : Option Duration :=
  rules.idleLimit.filter fun limit => !limit.isZero

/-- A round that begins at one of some points in time sets this deadline. -/
def Rules.Sets (rules : Rules) (readings : List Instant) (deadline : Instant) : Prop :=
  ∃ limit, rules.patience = some limit ∧ ∃ start ∈ readings, start.later? limit = some deadline

namespace Session

open Connection (Held Kept ReadKept Refuses)

/-! ## Deadlines -/

/-- The deadlines that rounds will set exist. -/
def Feasible (rules : Rules) (connection : Connection) : Prop :=
  ∀ limit, rules.patience = some limit →
    ∀ now ∈ connection.transport.clock.readings, (now.later? limit).isSome

theorem Feasible.held {rules : Rules} {before after : Connection} (feasible : Feasible rules before)
    (held : Held before after) : Feasible rules after := by
  intro limit patience now reading
  exact feasible limit patience now (held.readings.subset reading)

/-- The deadline is still the old one, or a round has set it. -/
def Reset (rules : Rules) (before after : Connection) : Prop :=
  after.deadline = before.deadline ∨
    ∃ deadline, after.deadline = some deadline ∧
      rules.Sets before.transport.clock.readings deadline

theorem Reset.trans_kept {rules : Rules} {first second third : Connection}
    (early : Reset rules first second) (late : Kept second third) : Reset rules first third := by
  rcases early with same | ⟨deadline, limited, sets⟩
  · exact Or.inl (late.deadline.trans same)
  · exact Or.inr ⟨deadline, late.deadline.trans limited, sets⟩

/-- What setting a deadline and awaiting a header leave of a connection. -/
structure Ready (rules : Rules) (before after : Connection) : Prop extends Held before after where
  sent : after.transport.sent = before.transport.sent
  reset : Reset rules before after

theorem Ready.read {rules : Rules} {first second third : Connection}
    (early : Ready rules first second) (late : ReadKept second third) : Ready rules first third :=
  ⟨early.toHeld.trans late.toHeld, late.sent.trans early.sent,
    early.reset.trans_kept late.toKept⟩

/-- Reading and writing may come up against a deadline. -/
def Timed (rules : Rules) (connection : Connection) : Prop :=
  rules.patience ≠ none ∨ connection.deadline ≠ none

/-- The clock will show that the deadline has passed, or one that a round sets. -/
def MayExpire (rules : Rules) (connection : Connection) : Prop :=
  ∃ deadline, (connection.deadline = some deadline ∨
      rules.Sets connection.transport.clock.readings deadline) ∧
    ∃ now ∈ connection.transport.clock.readings, deadline.nanos ≤ now.nanos

theorem Timed.of_reset {rules : Rules} {before after : Connection}
    (reset : Reset rules before after) (timed : Timed rules after) : Timed rules before := by
  rcases timed with patient | limited
  · exact Or.inl patient
  · rcases reset with same | ⟨_, _, limit, patience, _⟩
    · rw [same] at limited
      exact Or.inr limited
    · exact Or.inl (by simp [patience])

theorem MayExpire.of_reset {rules : Rules} {before after : Connection} (held : Held before after)
    (reset : Reset rules before after) (mayExpire : MayExpire rules after) :
    MayExpire rules before := by
  rcases mayExpire with
    ⟨deadline, limited | ⟨limit, patience, start, begun, later⟩, now, reading, passed⟩
  · refine ⟨deadline, ?_, now, held.readings.subset reading, passed⟩
    rcases reset with same | ⟨deadline', limited', sets⟩
    · exact Or.inl (same.symm.trans limited)
    · rw [limited] at limited'
      cases limited'
      exact Or.inr sets
  · exact ⟨deadline, Or.inr ⟨limit, patience, start, held.readings.subset begun, later⟩, now,
      held.readings.subset reading, passed⟩

/-- Why a round may be refused on account of a deadline. -/
def Hinders (rules : Rules) (connection : Connection) (fault : Fault) : Prop :=
  Timed rules connection ∧
    ((fault = .pastDeadline ∧ MayExpire rules connection) ∨ connection.transport.Withholds fault)

/-- What hinders a later round was to be expected before. -/
theorem Hinders.of_reset {rules : Rules} {before after : Connection} (held : Held before after)
    (reset : Reset rules before after) {fault : Fault} (hinders : Hinders rules after fault) :
    Hinders rules before fault := by
  rcases hinders with ⟨timed, ⟨same, mayExpire⟩ | withholds⟩
  · exact ⟨.of_reset reset timed, Or.inl ⟨same, .of_reset held reset mayExpire⟩⟩
  · exact ⟨.of_reset reset timed, Or.inr (held.withholds withholds)⟩

theorem Ready.hinders {rules : Rules} {before after : Connection} (ready : Ready rules before after)
    {fault : Fault} (refuses : Refuses after fault) : Hinders rules before fault := by
  refine .of_reset ready.toHeld ready.reset ⟨Or.inr refuses.1, ?_⟩
  rcases refuses.2 with ⟨same, deadline, limited, expired⟩ | withholds
  · exact Or.inl ⟨same, deadline, Or.inl limited, expired⟩
  · exact Or.inr withholds

/-! ## The beginning of a round -/

theorem armIdle_of_none {rules : Rules} (endless : rules.patience = none) (before : Session) :
    armIdle rules before = .ok () before := by
  unfold armIdle
  cases limited : rules.idleLimit with
  | none => rfl
  | some limit =>
      have zero : limit.isZero = true := by
        simpa [Rules.patience, limited, Option.filter] using endless
      simp only [zero]
      rfl

/-- A session after one more reading of the clock. -/
def ticked (session : Session) : Session :=
  { session with connection :=
    { session.connection with transport := session.connection.transport.readClock.2 } }

/-- A round that sets a deadline first reads the clock, and breaks off if there is no such
deadline. -/
theorem armIdle_of_some {rules : Rules} {limit : Duration} (timed : rules.patience = some limit)
    (before : Session) :
    (∃ deadline, before.connection.transport.clock.now.later? limit = some deadline ∧
        armIdle rules before = onConnection (Connection.setDeadline deadline) before.ticked) ∨
      (before.connection.transport.clock.now.later? limit = none ∧
        armIdle rules before = .error (.crash beyondTime) before.ticked) := by
  rcases Option.filter_eq_some_iff.mp timed with ⟨limited, positive⟩
  have nonzero : ¬limit.isZero = true := by simpa using positive
  have read : readClock before = .ok before.connection.transport.clock.now before.ticked := rfl
  simp only [armIdle, limited, if_neg nonzero]
  rw [bind_of_ok read]
  cases before.connection.transport.clock.now.later? limit with
  | none => exact Or.inr ⟨rfl, rfl⟩
  | some deadline => exact Or.inl ⟨deadline, rfl, rfl⟩

theorem ready_ticked (rules : Rules) (before : Session) :
    Ready rules before.connection before.ticked.connection := by
  have read := Connection.armKept_readClock before.connection
  exact ⟨read.toHeld, read.sent, Or.inl read.deadline⟩

/-- Why a round does not take place: its connection is closed, or a deadline does not exist. -/
def Bars (rules : Rules) (connection : Connection) (halt : Halt) : Prop :=
  connection.closed = true ∨ (¬Feasible rules connection ∧ halt = .crash beyondTime)

/-- Setting the deadline for idling either works or keeps the round from taking place. -/
theorem armIdle_cases (rules : Rules) (before : Session) :
    ∃ connection, Ready rules before.connection connection ∧
      connection.transport.incoming = before.connection.transport.incoming ∧
      (armIdle rules before = .ok () { before with connection } ∨
        ∃ halt, armIdle rules before = .error halt { before with connection } ∧
          Bars rules before.connection halt) := by
  cases patience : rules.patience with
  | none =>
      exact ⟨before.connection, ⟨.refl _, rfl, Or.inl rfl⟩, rfl,
        Or.inl (armIdle_of_none patience before)⟩
  | some limit =>
      have ready := ready_ticked rules before
      rcases armIdle_of_some patience before with ⟨deadline, later, set⟩ | ⟨never, crashed⟩
      · cases closed : before.connection.closed with
        | true =>
            have refused := Connection.setDeadline_of_closed (ready.closed.trans closed) deadline
            exact ⟨before.ticked.connection, ready, rfl,
              Or.inr ⟨_, set.trans (onConnection_of_error refused), Or.inl closed⟩⟩
        | false =>
            have done := Connection.setDeadline_of_open (ready.closed.trans closed) deadline
            exact ⟨{ before.ticked.connection with deadline := some deadline },
              ⟨⟨ready.dialled, ready.closed, ready.bodyLimit, ready.peer, ready.outgoing,
                ready.timeoutFaults, ready.readings⟩, ready.sent,
                Or.inr ⟨deadline, rfl, limit, patience, _, List.mem_cons_self, later⟩⟩, rfl,
              Or.inl (set.trans (onConnection_of_ok done))⟩
      · refine ⟨before.ticked.connection, ready, rfl, Or.inr ⟨_, crashed, Or.inr ⟨?_, rfl⟩⟩⟩
        intro feasible
        have attainable := feasible limit patience _ List.mem_cons_self
        rw [never] at attainable
        cases attainable

/-! ## One round -/

/-- A header arrived on the connection of a session. -/
structure Arrived (rules : Rules) (before : Session) (connection : Connection) : Prop where
  ready : Ready rules before.connection connection
  isOpen : before.connection.closed = false
  enough : Header.width ≤ before.outlook.data.length
  left : connection.outlook = before.outlook.drop Header.width

/-- The bytes of the header that comes next. -/
def head (session : Session) : Bytes :=
  session.outlook.data.take Header.width

/-- Everything that a round can do. -/
inductive Rounded (rules : Rules) (before : Session) : EStateM.Result Halt Session Next → Prop
  | barred {connection : Connection} {halt : Halt}
      (ready : Ready rules before.connection connection) (why : Bars rules before.connection halt) :
      Rounded rules before (.error halt { before with connection })
  | short {connection : Connection} (ready : Ready rules before.connection connection)
      (short : before.outlook.data.length < Header.width)
      (left : connection.transport.incoming = before.outlook.later) :
      Rounded rules before
        ((Exchange.Ending.ofHeaderError (Connection.headerError before.outlook)).stop
          { before with connection })
  | refused {connection : Connection} {fault : Fault}
      (ready : Ready rules before.connection connection)
      (hinders : Hinders rules before.connection fault) :
      Rounded rules before
        ((Exchange.Ending.ofHeaderError (Header.interrupted fault)).stop { before with connection })
  | untyped {connection : Connection} (arrived : Arrived rules before connection)
      (kind : (Header.ofBytes before.head).kind = none) :
      Rounded rules before
        (.error (.failure (.invalidEndpointType (Header.ofBytes before.head).tag))
          { before with connection })
  | unopened {connection : Connection} (arrived : Arrived rules before connection)
      (kind : (Header.ofBytes before.head).kind = some .stream)
      (unregistered : rules.registry.stream? (Header.ofBytes before.head).endpoint = none) :
      Rounded rules before
        (.error (.failure (.invalidEndpoint (Header.ofBytes before.head).endpoint))
          { before with connection })
  | opened {connection : Connection} {handler : StreamHandler}
      (arrived : Arrived rules before connection)
      (kind : (Header.ofBytes before.head).kind = some .stream)
      (known : rules.registry.stream? (Header.ofBytes before.head).endpoint = some handler) :
      Rounded rules before
        ((Exchange.Ending.handedOver handler (.ofBytes before.head)).stop
          ((before.invoked connection (.stream handler.title (.ofBytes before.head))).telling rules
            [.handedOver (Header.ofBytes before.head).endpoint]))
  | unserved {connection : Connection} {halt : Halt} {after : Session}
      (arrived : Arrived rules before connection)
      (kind : (Header.ofBytes before.head).kind = some .request)
      (handled : Handled rules before.head { before with connection } (.error halt after)) :
      Rounded rules before (.error halt after)
  | served {connection : Connection} {after : Session} (arrived : Arrived rules before connection)
      (kind : (Header.ofBytes before.head).kind = some .request)
      (handled : Handled rules before.head { before with connection } (.ok () after)) :
      Rounded rules before (.ok .again after)

theorem round_of_header {rules : Rules} {before ready : Session} {header : Header}
    {connection : Connection} (armed : armIdle rules before = .ok () ready)
    (done : Connection.readHeader ready.connection = .ok header connection) :
    round rules before = route rules header { ready with connection } := by
  rw [round, bind_of_ok armed]
  simp only [Bind.bind, EStateM.bind, awaitHeader, done]

theorem round_of_headerError {rules : Rules} {before ready : Session} {error : Error}
    {connection : Connection} (armed : armIdle rules before = .ok () ready)
    (failed : Connection.readHeader ready.connection = .error error connection) :
    round rules before = (Exchange.Ending.ofHeaderError error).stop { ready with connection } := by
  rw [round, bind_of_ok armed]
  simp only [Bind.bind, EStateM.bind, awaitHeader, failed, Exchange.Ending.ofHeaderError]
  cases error.isDisconnect with
  | true => rfl
  | false => rfl

theorem handleStream_of_known {rules : Rules} {header : Header} {handler : StreamHandler}
    (known : rules.registry.stream? header.endpoint = some handler) (session : Session) :
    handleStream rules header session = (Exchange.Ending.handedOver handler header).finish
      ((session.invoked session.connection (.stream handler.title header)).telling rules
        [.handedOver header.endpoint]) := by
  simp only [handleStream, known, Exchange.Ending.finish, telling, invoked]
  split <;> simp only [Bind.bind, EStateM.bind, tell, record, *] <;> rfl

theorem over_of_finish {action : EStateM Halt Session Unit} {before after : Session}
    {ending : Exchange.Ending} (done : action before = ending.finish after) :
    (do action; pure Next.over : EStateM Halt Session Next) before = ending.stop after := by
  simp only [Bind.bind, EStateM.bind, done, Exchange.Ending.stop]
  cases ending.finish after with
  | ok _ _ => rfl
  | error _ _ => rfl

/-- What a round does once a header has arrived. -/
theorem rounded_of_arrived {rules : Rules} {before : Session} {connection : Connection}
    (arrived : Arrived rules before connection) :
    Rounded rules before (route rules (.ofBytes before.head) { before with connection }) := by
  cases kind : (Header.ofBytes before.head).kind with
  | none =>
      simp only [route, kind]
      exact Rounded.untyped arrived kind
  | some asked =>
      cases asked with
      | request =>
          simp only [route, kind]
          have openMiddle : { before with connection }.connection.closed = false :=
            arrived.ready.closed.trans arrived.isOpen
          have served := handled rules before.head openMiddle
          cases step : handleRequest rules (.ofBytes before.head) { before with connection } with
          | ok _ after =>
              rw [step] at served
              rw [bind_of_ok step]
              exact Rounded.served arrived kind served
          | error halt after =>
              rw [step] at served
              rw [bind_of_error step]
              exact Rounded.unserved arrived kind served
      | stream =>
          simp only [route, kind]
          cases known : rules.registry.stream? (Header.ofBytes before.head).endpoint with
          | none =>
              simp only [handleStream, known]
              exact Rounded.unopened arrived kind known
          | some handler =>
              rw [over_of_finish (handleStream_of_known known { before with connection })]
              exact Rounded.opened arrived kind known

/-- A round does one of these things. -/
theorem rounded (rules : Rules) (before : Session) : Rounded rules before (round rules before) := by
  rcases armIdle_cases rules before with
    ⟨connection, ready, incoming, armed | ⟨halt, failed, why⟩⟩
  · have same : connection.outlook = before.outlook := congrArg Source.outlook incoming
    -- Without an idle limit nothing before the header notices that the connection is closed.
    cases closed : before.connection.closed with
    | true =>
        have refused := Connection.readHeader_of_closed (ready.closed.trans closed)
        rw [round_of_headerError armed refused]
        exact Rounded.barred ready (Or.inl closed)
    | false =>
        rcases Connection.readHeader_cases (ready.closed.trans closed) with
          ⟨after, done, enough, kept, left⟩ | ⟨after, failed, short, kept, left⟩ |
          ⟨fault, after, failed, refuses, kept⟩
        · rw [same] at done enough left
          rw [round_of_header armed done, ← Header.ofBytes_take]
          exact rounded_of_arrived ⟨ready.read kept, closed, enough, left⟩
        · rw [same] at failed short left
          rw [round_of_headerError armed failed]
          exact Rounded.short (ready.read kept) short left
        · rw [round_of_headerError armed failed]
          exact Rounded.refused (ready.read kept) (ready.hinders refuses)
  · rw [round, bind_of_error failed]
    exact Rounded.barred ready why

/-! ## The whole session -/

theorem dispatch_eq (rules : Rules) (before : Session) :
    dispatch rules before =
      match round rules before with
      | .ok .again after => dispatch rules after
      | .ok .over after => .ok () after
      | .error halt after => .error halt after := by
  rw [dispatch]
  split
  · next same => rw [same]
  · next same => rw [same]
  · next same => rw [same]

theorem dispatch_of_again {rules : Rules} {before after : Session}
    (again : round rules before = .ok .again after) :
    dispatch rules before = dispatch rules after := by
  rw [dispatch_eq, again]

theorem dispatch_of_stop {rules : Rules} {before after : Session} {ending : Exchange.Ending}
    (stops : round rules before = ending.stop after) :
    dispatch rules before = ending.finish after := by
  rw [dispatch_eq, stops, Exchange.Ending.stop]
  cases ending.finish after with
  | ok value last => rfl
  | error halt last => rfl

end Session

end Switchboard
