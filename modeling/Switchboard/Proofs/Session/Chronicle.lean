import Switchboard.Proofs.Session.Idling

/-!
# What a session tells about itself

The events of a session are an account of it: that it began, every request whose answer was sent as
a whole, that a handler of streams took over if one did, an error if the session ended with one, and
that it is over. A round that serves a request tells about it and about nothing else, so the events
grow with the answers (`Serving`), and what is told at the end depends on the ending alone
(`farewell`).

Only a session that breaks off does not tell its end. Handlers can do that, and so can a limit for
idling whose deadline does not exist (`Broken`).

The same fault is told or not, depending on where it strikes (`Strikes`): a peer may go away while a
header is awaited, but not while it owes a body or has an answer to take.
-/

namespace Switchboard

namespace Error

/-- Reading or writing took too long. -/
def Expired (error : Error) : Prop :=
  ∃ fault, error = .io fault ∧ (fault.kind = .wouldBlock ∨ fault.kind = .timedOut)

/-- The peer went away: its stream ended, or the connection was broken off. -/
def Departed (error : Error) : Prop :=
  error = .disconnected ∨ ∃ fault, error = .io fault ∧
    (fault.kind = .connectionReset ∨ fault.kind = .connectionAborted ∨ fault.kind = .brokenPipe)

theorem isTimeout_iff {error : Error} : error.isTimeout = true ↔ error.Expired := by
  cases error <;> simp [isTimeout, Fault.isTimeout, Expired]

theorem isDisconnect_iff {error : Error} : error.isDisconnect = true ↔ error.Departed := by
  cases error <;> simp [isDisconnect, Fault.isDisconnect, Departed, or_assoc]

end Error

namespace Event

theorem failureMessage_of_timeout {error : Error} (timeout : error.isTimeout = true) :
    failureMessage error = "Idle timeout expired" := by
  unfold failureMessage
  exact if_pos timeout

/-- Nothing else is told in the same words. -/
theorem failureMessage_ne_of_not_timeout {error : Error} (other : error.isTimeout = false) :
    failureMessage error ≠ "Idle timeout expired" := by
  unfold failureMessage
  rw [if_neg (by simp [other])]
  cases error <;> simp

/-- An error is told in the words for idling if it is one of time, and then it is nothing to worry
about. -/
theorem tells_idling_iff (peer : String) (error : Error) :
    ((failed peer error).message = "Idle timeout expired" ↔ error.Expired) ∧
      ((failed peer error).level = .info ↔ error.Expired) ∧
      ((failed peer error).level = .warn ↔ ¬error.Expired) := by
  change (failureMessage error = _ ↔ _) ∧
    ((if error.isTimeout then Level.info else .warn) = .info ↔ _) ∧
    ((if error.isTimeout then Level.info else .warn) = .warn ↔ _)
  rw [← Error.isTimeout_iff]
  cases timeout : error.isTimeout with
  | true => simp [failureMessage_of_timeout timeout]
  | false => simp [failureMessage_ne_of_not_timeout timeout]

end Event

namespace Session

open Exchange (Ending)

variable {α : Type} {rules : Rules}

/-! ## Who breaks a session off -/

/-- A step breaks a session off only if a handler of requests does, or once the connection is handed
over. -/
def Steady (action : EStateM Halt Session α) : Prop :=
  ∀ before halt after, action before = .error halt after →
    Blamed after halt ∨ ∃ title header, Invocation.stream title header ∈ after.invocations

theorem Steady.pure (value : α) : Steady (Pure.pure value) := by
  intro before halt after failed
  cases failed

theorem Steady.throw (error : Error) :
    Steady (throw (.failure error) : EStateM Halt Session α) := by
  intro before halt after failed
  cases failed
  exact Or.inl trivial

theorem Steady.bind {β : Type} {first : EStateM Halt Session α} {next : α → EStateM Halt Session β}
    (steadyFirst : Steady first) (steadyNext : ∀ value, Steady (next value)) :
    Steady (first >>= next) := by
  intro before halt after failed
  cases step : first before with
  | ok value middle =>
      rw [bind_of_ok step] at failed
      exact steadyNext value middle halt after failed
  | error other stopped =>
      rw [bind_of_error step] at failed
      cases failed
      exact steadyFirst before halt after step

theorem steady_onConnection (action : EStateM Error Connection α) :
    Steady (onConnection action) := by
  intro before halt after failed
  simp only [onConnection] at failed
  split at failed
  · cases failed
  · cases failed
    exact Or.inl trivial

theorem steady_awaitHeader : Steady awaitHeader := by
  intro before halt after failed
  simp only [awaitHeader] at failed
  split at failed
  · cases failed
  · split at failed
    · cases failed
    · cases failed
      exact Or.inl trivial

theorem steady_tell (rules : Rules) (event : Event) : Steady (tell rules event) := by
  intro before halt after failed
  cases failed

theorem steady_invoke (handler : RequestHandler) (header : Header) (body : Bytes) :
    Steady (invoke handler header body) := by
  intro before halt after failed
  cases outcome : (handler.answer header body).trouble with
  | none =>
      rw [invoke_of_no_trouble outcome] at failed
      cases failed
  | some trouble =>
      rw [invoke_of_trouble outcome] at failed
      cases failed
      cases trouble with
      | failed reason => exact Or.inl trivial
      | crashed reason =>
          exact Or.inl ⟨handler.title, header, body, handler.answer header body,
            List.mem_append_right _ List.mem_cons_self, outcome⟩

theorem steady_handleRequest (rules : Rules) (header : Header) :
    Steady (handleRequest rules header) := by
  unfold handleRequest
  split
  · exact .throw _
  · next handler known =>
    refine (steady_onConnection _).bind fun body =>
      (steady_invoke handler header body).bind fun output => ?_
    exact (steady_onConnection _).bind fun _ => steady_tell rules _

/-- What a handler of streams does to its connection is no part of what is recorded. -/
theorem records_finish (ending : Ending) (middle : Session) :
    (settled (ending.finish middle)).invocations = middle.invocations ∧
      (settled (ending.finish middle)).events = middle.events := by
  rcases ending with _ | halt | ⟨handler, header⟩
  · exact ⟨rfl, rfl⟩
  · exact ⟨rfl, rfl⟩
  · simp only [Ending.finish, handOver]
    split <;> exact ⟨rfl, rfl⟩

theorem steady_handleStream (rules : Rules) (header : Header) :
    Steady (handleStream rules header) := by
  intro before halt after failed
  cases known : rules.registry.stream? header.endpoint with
  | none =>
      simp only [handleStream, known] at failed
      cases failed
      exact Or.inl trivial
  | some handler =>
      rw [handleStream_of_known known] at failed
      have kept : after.invocations = before.invocations ++ [.stream handler.title header] := by
        have same := (records_finish (.handedOver handler header)
          ((before.invoked before.connection (.stream handler.title header)).telling rules
            [.handedOver header.endpoint])).1
        rw [failed, invocations_telling] at same
        exact same
      refine Or.inr ⟨handler.title, header, ?_⟩
      rw [kept]
      exact List.mem_append_right _ List.mem_cons_self

theorem steady_route (rules : Rules) (header : Header) : Steady (route rules header) := by
  unfold route
  split
  · exact (steady_handleRequest rules header).bind fun _ => .pure _
  · exact (steady_handleStream rules header).bind fun _ => .pure _
  · exact .throw _

theorem armIdle_breaks_off {before after : Session} {reason : String}
    (broken : armIdle rules before = .error (.crash reason) after) :
    reason = beyondTime ∧ ∃ limit, rules.patience = some limit ∧
      before.connection.transport.clock.now.later? limit = none := by
  cases patience : rules.patience with
  | none =>
      rw [armIdle_of_none patience] at broken
      cases broken
  | some limit =>
      rcases armIdle_of_some patience before with ⟨deadline, later, set⟩ | ⟨never, crashed⟩
      · rw [set, onConnection] at broken
        split at broken
        · cases broken
        · cases broken
      · rw [crashed] at broken
        cases broken
        exact ⟨rfl, limit, rfl, never⟩

/-- A round breaks off because of a handler, or because the deadline for idling does not exist. -/
theorem round_breaks_off {before after : Session} {reason : String}
    (broken : round rules before = .error (.crash reason) after) :
    (reason = beyondTime ∧ ∃ limit, rules.patience = some limit ∧
        before.connection.transport.clock.now.later? limit = none) ∨
      Blamed after (.crash reason) ∨
      ∃ title header, Invocation.stream title header ∈ after.invocations := by
  cases armed : armIdle rules before with
  | error halt stopped =>
      rw [round, bind_of_error armed] at broken
      cases broken
      exact Or.inl (armIdle_breaks_off armed)
  | ok value ready =>
      rw [round, bind_of_ok armed] at broken
      refine Or.inr ((steady_awaitHeader.bind fun awaited => ?_) ready _ after broken)
      cases awaited with
      | none => exact .pure _
      | some header => exact steady_route rules header

/-! ## Rounds that serve requests -/

/-- One round after the other has served a request and told about it. -/
inductive Serving (rules : Rules) : Session → List Request → Session → Prop
  | nil (session : Session) : Serving rules session [] session
  | cons {before middle after : Session} {request : Request} {later : List Request}
      (again : round rules before = .ok .again middle) (serves : Serves rules before request middle)
      (told : rules.log = true → middle.events = before.events ++ [request.event])
      (serving : Serving rules middle later after) : Serving rules before (request :: later) after

namespace Serving

variable {before after : Session} {requests : List Request}

theorem onward (serving : Serving rules before requests after) :
    dispatch rules before = dispatch rules after := by
  induction serving with
  | nil session => rfl
  | cons again serves told serving ih => rw [dispatch_of_again again, ih]

/-- The session ends as its last round does. -/
theorem ends (serving : Serving rules before requests after) {ending : Ending} {middle : Session}
    (stops : round rules after = ending.stop middle) :
    dispatch rules before = ending.finish middle :=
  serving.onward.trans (dispatch_of_stop stops)

theorem events (serving : Serving rules before requests after) (logs : rules.log = true) :
    after.events = before.events ++ requests.map Request.event := by
  induction serving with
  | nil session => rw [List.map_nil, List.append_nil]
  | cons again serves told serving ih =>
      rw [ih, told logs, List.map_cons, List.append_assoc, List.singleton_append]

theorem holds (serving : Serving rules before requests after) {account : Account} {middle : Session}
    (holds : account.Holds rules after middle) :
    { account with answered := requests ++ account.answered }.Holds rules before middle := by
  induction serving with
  | nil session => exact holds
  | cons again serves told serving ih => exact serves.holds_cons (ih holds)

end Serving

/-- Every session serves some requests and then comes to its ending. -/
theorem exists_closing (rules : Rules) (before : Session) :
    ∃ requests last account middle, Serving rules before requests last ∧
      round rules last = account.ending.stop middle ∧ Closes rules last account middle := by
  rcases round_serves_or_closes rules before with
    ⟨request, after, again, serves, told⟩ | ⟨account, middle, stops, closes⟩
  · have paid := budget_of_round again
    rcases exists_closing rules after with ⟨requests, last, account, middle, serving, stops, closes⟩
    exact ⟨request :: requests, last, account, middle, .cons again serves told serving,
      stops, closes⟩
  · exact ⟨[], before, account, middle, .nil before, stops, closes⟩
termination_by before.budget

/-- Every session has an account of the rounds that served and of the one that came to its
ending. -/
theorem exists_account (rules : Rules) (before : Session) :
    ∃ (account : Account) (last middle : Session), Serving rules before account.answered last ∧
      round rules last = account.ending.stop middle ∧ account.Holds rules before middle ∧
      (rules.log = true →
        middle.events = last.events ++ account.ending.invocations.map Invocation.event) := by
  rcases exists_closing rules before with
    ⟨requests, last, ⟨answered, unsent, part, ending⟩, middle, serving, stops, closes⟩
  have nothing : answered = [] := closes.answered
  subst nothing
  have holds := serving.holds closes.holds
  rw [List.append_nil] at holds
  exact ⟨⟨requests, unsent, part, ending⟩, last, middle, serving, stops, holds, closes.told⟩

/-- A connection that is served as a whole sends only answers, to requests whose bodies are within
the limit of the rules. This is all that it has sent in the end, unless a handler of streams took
over. -/
theorem run_sends_only_answers (rules : Rules) (connection : Connection) :
    ∃ (account : Account) (middle : Session),
      run rules connection = conclude rules connection.transport.peer
        (account.ending.finish middle) ∧
      account.Holds rules (starting rules connection) middle ∧
      (∀ request ∈ account.requests, request.Proper rules.registry rules.bodyLimit) ∧
      (account.ending.invocations = [] →
        (run rules connection).session.sent = connection.transport.sent ++
            account.answered.flatMap Request.response ++ account.part ∧
          (run rules connection).session.invocations =
            account.requests.map Request.invocation) := by
  have start := connection_starting rules connection
  rcases exists_account rules (starting rules connection) with
    ⟨account, last, middle, serving, stops, holds, _⟩
  have ends : run rules connection =
      conclude rules connection.transport.peer (account.ending.finish middle) :=
    congrArg (conclude rules connection.transport.peer) (serving.ends stops)
  refine ⟨account, middle, ends, holds, ?_, ?_⟩
  · intro request among
    have proper := holds.proper request among
    rwa [start] at proper
  · intro streamless
    rcases conclude_of_streamless streamless rules connection.transport.peer middle with
      ⟨sent, invocations⟩
    have nobody : (starting rules connection).invocations = [] := by simp [starting, opening]
    rw [ends, sent, invocations, holds.sent, holds.invocations, streamless, nobody,
      Session.sent, start]
    exact ⟨rfl, by simp⟩

/-! ## Where an error strikes -/

/-- What a round is about to do. -/
inductive Stage
  | awaiting
  | reading
  | answering

/-- What comes of an error. -/
def Stage.ending (error : Error) : Stage → Ending
  | .awaiting => .ofHeaderError error
  | .reading => .halted (.failure error)
  | .answering => .halted (.failure error)

/-- The error is one of those that nobody is told about: the peer went away between two requests. -/
def Stage.Silent (error : Error) (stage : Stage) : Prop :=
  stage = .awaiting ∧ error.Departed

theorem Stage.ending_of_silent {stage : Stage} {error : Error} (silent : stage.Silent error) :
    stage.ending error = .over := by
  rcases silent with ⟨rfl, departed⟩
  exact if_pos (Error.isDisconnect_iff.mpr departed)

theorem Stage.ending_of_not_silent {stage : Stage} {error : Error} (loud : ¬stage.Silent error) :
    stage.ending error = .halted (.failure error) := by
  cases stage with
  | awaiting => exact if_neg fun departed => loud ⟨rfl, Error.isDisconnect_iff.mp departed⟩
  | reading => rfl
  | answering => rfl

/-- In a round that begins like this the header of a request arrives, and there is a handler for
it. -/
structure Asked (rules : Rules) (before ready : Session) (header : Header)
    (handler : RequestHandler) (heard : Connection) : Prop where
  armed : armIdle rules before = .ok () ready
  arrived : Connection.readHeader ready.connection = .ok header heard
  kind : header.kind = some .request
  known : rules.registry.request? header.endpoint = some handler

theorem Asked.round_of_error {before ready after : Session} {header : Header}
    {handler : RequestHandler} {heard : Connection} {halt : Halt}
    (asked : Asked rules before ready header handler heard)
    (failed : handleRequest rules header { ready with connection := heard } = .error halt after) :
    round rules before = .error halt after := by
  rw [round_of_header asked.armed asked.arrived]
  simp only [route, asked.kind]
  exact bind_of_error failed

/-- In a round that begins like this an error comes up while the session awaits a header, while it
reads the body of a request, or while it writes an answer. -/
inductive Strikes (rules : Rules) (before : Session) : Stage → Error → Session → Prop
  | awaiting {ready : Session} {error : Error} {connection : Connection}
      (armed : armIdle rules before = .ok () ready)
      (failed : Connection.readHeader ready.connection = .error error connection) :
      Strikes rules before .awaiting error { ready with connection }
  | reading {ready : Session} {header : Header} {handler : RequestHandler} {error : Error}
      {heard connection : Connection} (asked : Asked rules before ready header handler heard)
      (failed : Connection.readBody header heard = .error error connection) :
      Strikes rules before .reading error { ready with connection }
  | answering {ready : Session} {header : Header} {handler : RequestHandler} {body : Bytes}
      {error : Error} {heard fed connection : Connection}
      (asked : Asked rules before ready header handler heard)
      (read : Connection.readBody header heard = .ok body fed)
      (fine : (handler.answer header body).trouble = none)
      (failed : Connection.writeFramed header.endpoint (handler.answer header body).output fed =
        .error error connection) :
      Strikes rules before .answering error
        (ready.invoked connection (.request handler.title header body (handler.answer header body)))

/-- Setting the deadline for idling concerns the connection alone, and reads nothing. -/
theorem ready_of_armIdle {before ready : Session} (armed : armIdle rules before = .ok () ready) :
    ∃ connection, Ready rules before.connection connection ∧
      connection.transport.incoming = before.connection.transport.incoming ∧
      ready = { before with connection } := by
  rcases armIdle_cases rules before with ⟨connection, kept, incoming, done | ⟨halt, failed, _⟩⟩
  · rw [done] at armed
    cases armed
    exact ⟨connection, kept, incoming, rfl⟩
  · rw [failed] at armed
    cases armed

theorem events_of_armIdle {before ready : Session} (armed : armIdle rules before = .ok () ready) :
    ready.events = before.events := by
  rcases ready_of_armIdle armed with ⟨connection, _, _, rfl⟩
  rfl

theorem Strikes.events {before after : Session} {stage : Stage} {error : Error}
    (strikes : Strikes rules before stage error after) : after.events = before.events := by
  have same {ready : Session} (armed : armIdle rules before = .ok () ready) :=
    events_of_armIdle armed
  cases strikes with
  | awaiting armed failed => rw [← same armed]
  | reading asked failed => rw [← same asked.armed]
  | answering asked read fine failed => rw [← same asked.armed, invoked]

theorem Strikes.stops {before after : Session} {stage : Stage} {error : Error}
    (strikes : Strikes rules before stage error after) :
    round rules before = (stage.ending error).stop after := by
  cases strikes with
  | awaiting armed failed => exact round_of_headerError armed failed
  | reading asked failed =>
      refine asked.round_of_error ?_
      simp only [handleRequest, asked.known]
      exact bind_of_error (onConnection_of_error failed)
  | answering asked read fine failed =>
      refine asked.round_of_error ?_
      simp only [handleRequest, asked.known]
      rw [bind_of_ok (onConnection_of_ok read), bind_of_ok (invoke_of_no_trouble fine _)]
      exact bind_of_error (onConnection_of_error failed)

/-- A stream that ends at a header or within one is a peer that has gone away, unless reading it was
refused. -/
theorem strikes_of_ended {before ready : Session} (armed : armIdle rules before = .ok () ready)
    (isOpen : before.connection.closed = false) (ended : before.outlook.stop = none)
    (short : before.outlook.data.length < Header.width) :
    (∃ after, Strikes rules before .awaiting .disconnected after) ∨
      ∃ fault after, Strikes rules before .awaiting (Header.interrupted fault) after ∧
        Connection.Refuses ready.connection fault := by
  rcases ready_of_armIdle armed with ⟨connection, kept, incoming, rfl⟩
  have same : connection.outlook = before.outlook := congrArg Source.outlook incoming
  rcases Connection.readHeader_cases (kept.closed.trans isOpen) with
    ⟨after, _, enough, _⟩ | ⟨after, failed, _⟩ | ⟨fault, after, failed, refuses, _⟩
  · rw [same] at enough
    exact absurd short (Nat.not_lt.mpr enough)
  · rw [same, Connection.headerError_ended ended] at failed
    exact Or.inl ⟨_, .awaiting armed failed⟩
  · exact Or.inr ⟨fault, _, .awaiting armed failed, refuses⟩

/-! ## The whole session -/

/-- What is told about the end of a session, unless it broke off. -/
def farewell (peer : String) : EStateM.Result Halt Session Unit → List Event
  | .ok () _ => [.disconnected peer]
  | .error (.failure error) _ => [.failed peer error, .disconnected peer]
  | .error (.crash _) _ => []

theorem records_conclude (logs : rules.log = true) (peer : String)
    (result : EStateM.Result Halt Session Unit) :
    (conclude rules peer result).session.invocations = (settled result).invocations ∧
      (conclude rules peer result).session.events =
        (settled result).events ++ farewell peer result := by
  rcases result with ⟨_, session⟩ | ⟨_ | _, session⟩ <;>
    simp [conclude, settled, released, telling, farewell, logs]

theorem records_starting (logs : rules.log = true) (connection : Connection) :
    (starting rules connection).invocations = [] ∧
      (starting rules connection).events = [.connected connection.transport.peer] := by
  simp [starting, opening, telling, logs]

/-- Why a session breaks off: a handler that was invoked does, or there is no deadline to set for
idling. -/
inductive Broken (rules : Rules) (account : Account) (last middle : Session) (reason : String) :
    Prop
  | request (blamed : Blamed middle (.crash reason))
  | stream {handler : StreamHandler} {header : Header} {connection : Connection}
      (handedOver : account.ending = .handedOver handler header)
      (crashed : handler.run header middle.connection = .error (.crashed reason) connection)
  | unending {limit : Duration} (patience : rules.patience = some limit)
      (never : last.connection.transport.clock.now.later? limit = none) (same : reason = beyondTime)

/-- What a connection tells, in the end, about the session that served it. -/
structure Chronicle (rules : Rules) (connection : Connection) (account : Account)
    (last middle : Session) :
    Prop where
  /-- The answered requests were served in as many rounds, and there was one more. -/
  serving : Serving rules (starting rules connection) account.answered last
  stops : round rules last = account.ending.stop middle
  holds : account.Holds rules (starting rules connection) middle
  ends : dispatch rules (starting rules connection) = account.ending.finish middle
  invocations : (run rules connection).session.invocations =
    account.requests.map Request.invocation ++ account.ending.invocations
  /-- Whatever happens is told once, and in the order in which it happens. -/
  events : (run rules connection).session.events =
    .connected connection.transport.peer :: account.answered.map Request.event ++
      account.ending.invocations.map Invocation.event ++
      farewell connection.transport.peer (dispatch rules (starting rules connection))
  broken : ∀ reason, (run rules connection).crash = some reason →
    Broken rules account last middle reason
  silent : ∀ stage error after, Strikes rules last stage error after → stage.Silent error →
    (run rules connection).session.events =
      .connected connection.transport.peer :: account.answered.map Request.event ++
        [.disconnected connection.transport.peer]
  loud : ∀ stage error after, Strikes rules last stage error after → ¬stage.Silent error →
    (run rules connection).session.events =
      .connected connection.transport.peer :: account.answered.map Request.event ++
        [.failed connection.transport.peer error, .disconnected connection.transport.peer]
  ended : ∀ ready, armIdle rules last = .ok () ready → last.connection.closed = false →
    last.outlook.stop = none → last.outlook.data.length < Header.width →
    (∃ after, Strikes rules last .awaiting .disconnected after) ∨
      ∃ fault after, Strikes rules last .awaiting (Header.interrupted fault) after ∧
        Connection.Refuses ready.connection fault

theorem crash_of_conclude {peer : String} {result : EStateM.Result Halt Session Unit}
    {reason : String} (crash : (conclude rules peer result).crash = some reason) :
    ∃ after, result = .error (.crash reason) after := by
  rcases result with ⟨_, after⟩ | ⟨_ | other, after⟩
  · cases crash
  · cases crash
  · cases crash
    exact ⟨after, rfl⟩

/-- A session that breaks off has a reason for it. -/
theorem broken_of_crash {account : Account} {last middle after : Session} {reason : String}
    (stops : round rules last = account.ending.stop middle)
    (invocations : middle.invocations = account.requests.map Request.invocation ++
      account.ending.invocations)
    (crashed : account.ending.finish middle = .error (.crash reason) after) :
    Broken rules account last middle reason := by
  rcases ending : account.ending with _ | halt | ⟨handler, header⟩
  · rw [ending] at crashed
    cases crashed
  · rw [ending] at crashed stops invocations
    cases crashed
    rcases round_breaks_off stops with ⟨same, limit, patience, never⟩ | blamed |
      ⟨title, header, mem⟩
    · exact .unending patience never same
    · exact .request blamed
    · -- A session that came to a halt has handed nothing over.
      have streamless : (Ending.halted (.crash reason)).invocations = [] := rfl
      rw [invocations, streamless, List.append_nil] at mem
      rcases List.mem_map.mp mem with ⟨request, _, differs⟩
      cases differs
  · rw [ending] at crashed
    simp only [Ending.finish, handOver] at crashed
    split at crashed
    · cases crashed
    · next trouble rest ran =>
      cases trouble with
      | failed reason => cases crashed
      | crashed reason =>
          cases crashed
          exact .stream ending ran

/-- If something strikes in the last round, then this is what the session tells. -/
theorem events_of_strikes {connection : Connection} {requests : List Request} {last after : Session}
    {stage : Stage} {error : Error} (logs : rules.log = true)
    (serving : Serving rules (starting rules connection) requests last)
    (strikes : Strikes rules last stage error after) :
    (run rules connection).session.events =
      .connected connection.transport.peer :: requests.map Request.event ++
        farewell connection.transport.peer ((stage.ending error).finish after) := by
  have ends : dispatch rules (starting rules connection) = (stage.ending error).finish after :=
    serving.ends strikes.stops
  have told :=
    (records_conclude logs connection.transport.peer ((stage.ending error).finish after)).2
  rw [(records_finish _ after).2, strikes.events, serving.events logs,
    (records_starting logs connection).2, ← ends] at told
  rw [← ends]
  exact told

/-- With logging on, the events of a session are the ones of its chronicle: the beginning, the
answers that were sent as a whole, the handler of streams that took over, the error with which the
session ended, and the end. Only a session that breaks off does not come to its end. Whoever goes
away while a header is awaited is no error, and an error that is one of time is told as idling. -/
theorem log_tells_what_happened (logs : rules.log = true) (connection : Connection) :
    (∃ account last middle, Chronicle rules connection account last middle) ∧
      ∀ peer error, ((Event.failed peer error).message = "Idle timeout expired" ↔ error.Expired) ∧
        ((Event.failed peer error).level = .info ↔ error.Expired) ∧
        ((Event.failed peer error).level = .warn ↔ ¬error.Expired) := by
  refine ⟨?_, Event.tells_idling_iff⟩
  rcases exists_account rules (starting rules connection) with
    ⟨account, last, middle, serving, stops, holds, told⟩
  have ends : dispatch rules (starting rules connection) = account.ending.finish middle :=
    serving.ends stops
  have begun := records_starting logs connection
  have invoked : middle.invocations =
      account.requests.map Request.invocation ++ account.ending.invocations := by
    rw [holds.invocations, begun.1, List.nil_append]
  have concluded := records_conclude logs connection.transport.peer
    (dispatch rules (starting rules connection))
  have kept := records_finish account.ending middle
  rw [← ends] at kept
  refine ⟨account, last, middle, ⟨serving, stops, holds, ends, ?_, ?_, ?_, ?_, ?_, ?_⟩⟩
  · exact concluded.1.trans (kept.1.trans invoked)
  · rw [kept.2, told logs, serving.events logs, begun.2] at concluded
    exact concluded.2
  · intro reason crash
    rcases crash_of_conclude crash with ⟨after, crashed⟩
    exact broken_of_crash stops invoked (ends.symm.trans crashed)
  · intro stage error after strikes silent
    rw [events_of_strikes logs serving strikes, Stage.ending_of_silent silent]
    rfl
  · intro stage error after strikes loud
    rw [events_of_strikes logs serving strikes, Stage.ending_of_not_silent loud]
    rfl
  · intro ready armed isOpen ended short
    exact strikes_of_ended armed isOpen ended short

/-- Rules under which everything that is called "echo" is echoed and everything is told. -/
def chatting (limit : Option Duration) : Rules :=
  { echoing limit with log := true }

/-- A call that is answered is told between the beginning and the end. -/
theorem call_is_told :
    (chatting none).log = true ∧
      (run (chatting none) calling).session.events =
        [.connected "", .served "echo" 2 2, .disconnected ""] := by
  have logs : (chatting none).log = true := rfl
  have endless : ∀ bound, (chatting none).patience = some bound →
      ((default : Instant).later? bound).isSome := by
    intro bound limited
    cases limited
  have answered : ∃ middle, dispatch (chatting none) (starting (chatting none) calling) =
      .ok () middle ∧ _ :=
    answered_echo rfl rfl endless
  rcases answered with ⟨final, done, invoked⟩
  rcases log_tells_what_happened logs calling with
    ⟨⟨⟨answered, unsent, part, ending⟩, last, middle, chronicle⟩, _⟩
  have concluded :=
    records_conclude logs "" (dispatch (chatting none) (starting (chatting none) calling))
  have called := concluded.1.symm.trans chronicle.invocations
  have ends := chronicle.ends
  have events := chronicle.events
  have unfinished := chronicle.holds.unfinished
  rw [done] at called ends events
  rw [settled, invoked] at called
  refine ⟨logs, ?_⟩
  rcases ending with _ | halt | ⟨handler, header⟩
  · cases unfinished
    have told := congrArg (List.map Invocation.event) called
    simp only [Account.requests, Option.toList_none, List.append_nil, Ending.invocations,
      List.map_map] at told events
    rw [events, ← show _ = answered.map Request.event from told]
    rfl
  · cases ends
  · have behind := congrArg List.getLast? called
    simp [Ending.invocations] at behind

/-- Under the longest limit of all a session breaks off where nobody is to blame, and its end is not
told. -/
theorem longest_limit_hides_the_end :
    let rules := chatting (some .longest)
    let connection : Connection := .bringing (.ofBytes [])
    rules.log = true ∧ (run rules connection).session.invocations = [] ∧
      (run rules connection).crash = some beyondTime ∧
      (run rules connection).session.events = [.connected ""] ∧
      Event.disconnected "" ∉ (run rules connection).session.events := by
  intro rules connection
  have patience : rules.patience = some .longest := rfl
  have never : connection.transport.clock.now.later? .longest = none := by decide
  have broken : run rules connection = _ := run_breaks_off patience never
  have events : (run rules connection).session.events = [.connected ""] := by
    rw [broken]
    rfl
  refine ⟨rfl, ?_, ?_, events, ?_⟩
  · rw [broken]
    rfl
  · rw [broken]
  · rw [events]
    decide

end Session

end Switchboard
