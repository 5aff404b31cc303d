import Switchboard.Proofs.Session.Reference

/-!
# Calls and their answers

One side sends calls, the other serves them, and the answers come back. The calls that come first
and can be answered are: each handler is invoked once, with the body that was sent, and its output
comes back as the body of a frame. The name in the frame is the one that the header of the call
carries; it is kept when the answer sends it again, since what went through a header once goes
through it unchanged.

The first call without a handler, or whose handler goes wrong, ends the session. Whoever reads the
answers is then told that the peer went away.
-/

namespace Switchboard

open Session (Request)

/-- The invocation of a handler of requests that succeeded. -/
def Invocation.succeeded : Invocation → Bool
  | .request _ _ _ answer => answer.trouble.isNone
  | .stream _ _ => false

/-- A call and the handler that it reaches. -/
structure Served where
  call : Call
  handler : RequestHandler

namespace Served

/-- What the handler makes of the call. -/
def answer (served : Served) : RequestHandler.Answer :=
  served.handler.answer served.call.header served.call.body

def invocation (served : Served) : Invocation :=
  .request served.handler.title served.call.header served.call.body served.answer

/-- The frame that comes back, as it is read. -/
def reply (served : Served) : Header × Bytes :=
  (.forRequest (Header.carried served.call.endpoint) (UInt64.ofNat served.answer.output.length),
    served.answer.output)

/-- The request that the call becomes where it arrives. -/
def request (served : Served) : Request :=
  ⟨(Header.forRequest served.call.endpoint (UInt64.ofNat served.call.body.length)).encode,
    served.call.body, served.handler⟩

theorem header_request (served : Served) : served.request.header = served.call.header := by
  have header := Connection.ofBytes_frame_append served.call []
  rw [List.append_nil, ← Header.ofBytes_take, Call.frame, Connection.frame,
    List.take_left' (Header.length_encode _)] at header
  exact header

theorem wire_request (served : Served) : served.request.wire = served.call.frame := rfl

theorem answer_request (served : Served) : served.request.answer = served.answer := by
  rw [Request.answer, header_request]
  rfl

theorem invocation_request (served : Served) : served.request.invocation = served.invocation := by
  rw [Request.invocation, header_request, answer_request]
  rfl

theorem response_request (served : Served) :
    served.request.response =
      Connection.frame (Header.carried served.call.endpoint) served.answer.output := by
  rw [Request.response, header_request, answer_request]
  rfl

theorem proper_request {served : Served} {registry : Registry} {limit : Option UInt64}
    (known : registry.request? (Header.carried served.call.endpoint) = some served.handler)
    (within : ∀ bound, limit = some bound → UInt64.ofNat served.call.body.length ≤ bound) :
    served.request.Proper registry limit := by
  have header := served.header_request
  constructor
  · exact Header.length_encode _
  · rw [header]
    rfl
  · rw [header]
    exact known
  · rw [header, Call.bodySize_header]
    rfl
  · rw [header]
    exact within

end Served

namespace Call

/-- The calls that come first and whose handlers are registered for the names that arrive and
succeed. -/
def served (registry : Registry) : List Call → List Served
  | [] => []
  | call :: later =>
      match registry.request? (Header.carried call.endpoint) with
      | none => []
      | some handler =>
          match (handler.answer call.header call.body).trouble with
          | none => ⟨call, handler⟩ :: served registry later
          | some _ => []

/-- An exchange invoked the handlers of some calls, and perhaps one more that went wrong, and wrote
their answers. -/
structure Answered (answers : List Served) (exchange : Exchange) : Prop where
  invocations : ∃ failed : Option Invocation,
    exchange.invocations = answers.map Served.invocation ++ failed.toList ∧
      ∀ invocation ∈ failed, invocation.succeeded = false
  written : exchange.written = answers.flatMap fun served => served.request.response
  streamless : exchange.ending.invocations = []

theorem Answered.none_of_failing (error : Error) (unread : Bytes) :
    Answered [] (.failing error unread) :=
  ⟨⟨none, rfl, by simp⟩, rfl, rfl⟩

/-- The calls that are served are answered, in order. -/
theorem answered_wire {registry : Registry} {limit : Option UInt64} {calls : List Call}
    (within : ∀ call ∈ calls, ∀ bound, limit = some bound →
      UInt64.ofNat call.body.length ≤ bound) :
    Answered (served registry calls) (.of registry limit (wire calls)) := by
  induction calls with
  | nil =>
      rw [Exchange.of_short (by decide)]
      exact ⟨⟨none, rfl, by simp⟩, rfl, rfl⟩
  | cons call later ih =>
      have rest := ih fun other mem => within other (List.mem_cons_of_mem _ mem)
      have fits := within call List.mem_cons_self
      have header := Connection.ofBytes_frame_append call (wire later)
      rw [wire_cons]
      cases known : registry.request? (Header.carried call.endpoint) with
      | none =>
          have enough : Header.width ≤ (call.frame ++ wire later).length := by
            rw [List.length_append, call.length_frame, Nat.add_assoc]
            exact Nat.le_add_right _ _
          have kind : (Header.ofBytes (call.frame ++ wire later)).kind = some .request := by
            rw [header]
            rfl
          have unregistered :
              registry.request? (Header.ofBytes (call.frame ++ wire later)).endpoint = none := by
            rw [header]
            exact known
          rw [Exchange.of_unknown enough kind unregistered]
          simp only [served, known]
          exact .none_of_failing _ _
      | some handler =>
          let first : Served := ⟨call, handler⟩
          have proper : first.request.Proper registry limit := Served.proper_request known fits
          have exchange := Exchange.of_request proper (wire later)
          rw [first.wire_request, first.answer_request] at exchange
          rw [exchange]
          cases outcome : first.answer.trouble with
          | some trouble =>
              have wrong : (handler.answer call.header call.body).trouble = some trouble := outcome
              simp only [served, known, wrong]
              refine ⟨⟨some first.request.invocation, rfl, ?_⟩, rfl, rfl⟩
              intro invocation same
              rw [Option.mem_some] at same
              rw [← same, first.invocation_request]
              simp [Served.invocation, Invocation.succeeded, outcome]
          | none =>
              have fine : (handler.answer call.header call.body).trouble = none := outcome
              rcases rest with ⟨⟨failed, invocations, wrong⟩, written, streamless⟩
              simp only [served, known, fine]
              refine ⟨⟨failed, ?_, wrong⟩, ?_, streamless⟩
              · rw [Exchange.after, invocations, first.invocation_request]
                rfl
              · rw [Exchange.after, written]
                rfl

end Call

namespace Connection

/-- The answers are the frames of calls of their own. -/
theorem exists_replies {answers : List Served}
    (fitting : ∀ served ∈ answers, served.answer.output.length < UInt64.size) :
    ∃ replies : List Call,
      Call.wire replies = answers.flatMap (fun served => served.request.response) ∧
        replies.map (fun call => (call.header, call.body)) = answers.map Served.reply := by
  induction answers with
  | nil => exact ⟨[], rfl, rfl⟩
  | cons first later ih =>
      rcases ih fun served mem => fitting served (List.mem_cons_of_mem _ mem) with
        ⟨replies, written, read⟩
      -- The name was carried once already, so sending it again does not change it.
      let reply : Call := ⟨Header.carried first.call.endpoint, .bytes first.answer.output,
        fitting first List.mem_cons_self⟩
      refine ⟨reply :: replies, ?_, ?_⟩
      · rw [Call.wire_cons, written, List.flatMap_cons, first.response_request]
        rfl
      · have header : reply.header = first.reply.1 := by
          rw [Call.header, Header.carried_carried]
          rfl
        rw [List.map_cons, List.map_cons, read, header]
        rfl

/-- Frames that are followed by the end of the stream are read, and then the peer is gone. -/
theorem repeats_wire {reader : Connection} (unrestricted : Unrestricted reader) {calls : List Call}
    (delivery : Source.Delivers (Call.wire calls) reader.transport.incoming) :
    Repeats readFramed reader (calls.map fun call => (call.header, call.body)) .disconnected := by
  have view : reader.outlook = ⟨Call.wire calls, none, []⟩ := delivery.outlook_eq
  have arrived : reader.outlook.data = Call.wire calls ++ [] := by
    rw [view, List.append_nil]
  rcases repeats_wire_append unrestricted arrived with
    ⟨middle, unrestrictedMiddle, data, stop, before⟩
  rw [view] at stop
  have none_whole : ∀ next later, ([] : List Call) = next :: later → 0 < next.frame.length := by
    intro next later impossible
    cases impossible
  rcases readFramed_cut unrestrictedMiddle none_whole data stop with ⟨after, failed⟩
  have frames := before [] _ (.failed failed)
  rwa [List.append_nil] at frames

end Connection

theorem Instant.nanos_of_later? {instant deadline : Instant} {duration : Duration}
    (later : instant.later? duration = some deadline) :
    deadline.nanos = instant.nanos + duration.totalNanos := by
  rw [Instant.later?] at later
  split at later
  · cases later
    rfl
  · cases later

namespace Session

open Exchange (Ending)

/-- The session with which serving a connection begins. -/
def starting (rules : Rules) (connection : Connection) : Session :=
  (opening rules connection).telling rules [.connected connection.transport.peer]

/-- If there are deadlines, each of them exists and can be set, and none of them ends the session.
Only a clock that gets past one of them could show the contrary. -/
structure Timely (rules : Rules) (connection : Connection) : Prop where
  feasible : Feasible rules connection
  settable : Timed rules connection → connection.transport.Settable
  unexpired : MayExpire rules connection → ∀ after,
    dispatch rules (starting rules connection) ≠ .error (.failure (.io .pastDeadline)) after

/-- No deadline passes while a clock shows less time than peers are allowed to idle. -/
theorem timely_of_brief {rules : Rules} {connection : Connection}
    (feasible : Feasible rules connection) (settable : connection.transport.Settable)
    (undated : connection.deadline = none)
    (brief : ∀ limit, rules.patience = some limit →
      ∀ start ∈ connection.transport.clock.readings, ∀ now ∈ connection.transport.clock.readings,
        now.nanos < start.nanos + limit.totalNanos) : Timely rules connection where
  feasible := feasible
  settable _ := settable
  unexpired := by
    rintro ⟨deadline, dated | ⟨limit, patience, start, begun, later⟩, now, reading, passed⟩
    · rw [undated] at dated
      cases dated
    · have soon := brief limit patience start begun now reading
      rw [Instant.nanos_of_later? later] at passed
      omega

/-- A clock that stands still gets past no deadline. -/
theorem timely_bringing {rules : Rules} (feasible : ∀ limit, rules.patience = some limit →
    ((default : Instant).later? limit).isSome) (source : Source) :
    Timely rules (.bringing source) := by
  have readings : (Connection.bringing source).transport.clock.readings = [default] := rfl
  refine timely_of_brief ?_ ?_ rfl ?_
  · intro limit patience now reading
    rw [readings, List.mem_singleton] at reading
    rw [reading]
    exact feasible limit patience
  · intro fault pending
    cases pending
  · intro limit patience start begun now reading
    have nonzero : ¬limit.isZero = true := by
      simpa using (Option.filter_eq_some_iff.mp patience).2
    rw [Duration.isZero_iff] at nonzero
    rw [readings, List.mem_singleton] at begun reading
    rw [begun, reading]
    omega

/-- The end of a session changes nothing of what it sent and of whom it invoked. -/
theorem conclude_of_streamless {ending : Ending} (streamless : ending.invocations = [])
    (rules : Rules) (peer : String) (middle : Session) :
    (conclude rules peer (ending.finish middle)).session.sent = middle.sent ∧
      (conclude rules peer (ending.finish middle)).session.invocations = middle.invocations := by
  have silent (events : List Event) :
      (middle.released.telling rules events).sent = middle.sent := by
    simp [sent, released, Connection.release, Transport.release, Transport.enter, Transport.sent,
      Transport.Call.sent]
  have quiet (events : List Event) :
      (middle.released.telling rules events).invocations = middle.invocations := by
    simp [released]
  rcases ending with _ | (error | reason) | ⟨handler, header⟩
  · exact ⟨silent _, quiet _⟩
  · exact ⟨silent _, quiet _⟩
  · refine ⟨?_, rfl⟩
    simp [conclude, Ending.finish, sent, released, Connection.release, Transport.release,
      Transport.enter, Transport.sent, Transport.Call.sent]
  · cases streamless

theorem connection_starting (rules : Rules) (connection : Connection) :
    (starting rules connection).connection = connection.withBodyLimit rules.bodyLimit := by
  simp [starting, opening]

theorem Timely.not_late {rules : Rules} {connection : Connection} (timely : Timely rules connection)
    {ending : Ending} {middle : Session}
    (ends : dispatch rules (starting rules connection) = ending.finish middle) :
    ¬Late rules (starting rules connection) ending := by
  intro late
  have same := connection_starting rules connection
  have timed := late.timed
  rw [same] at timed
  have settable : (starting rules connection).connection.transport.Settable := by
    rw [same]
    exact timely.settable timed
  rcases late.of_settable settable with ⟨mayExpire, rfl⟩
  rw [same] at mayExpire
  exact timely.unexpired mayExpire middle ends

theorem fed_starting {rules : Rules} {connection : Connection} {bytes : Bytes}
    (isOpen : connection.closed = false) (willing : connection.transport.Willing)
    (timely : Timely rules connection)
    (delivery : Source.Delivers bytes connection.transport.incoming) :
    Fed rules bytes (starting rules connection) := by
  have same := connection_starting rules connection
  constructor
  · rw [same]
    exact isOpen
  · rw [same]
    exact willing
  · rw [same]
    exact timely.feasible
  · rw [outlook, same]
    exact delivery.outlook_eq

/-- If no deadline ends it, a session serves its connection as the exchange says. -/
theorem run_follows {rules : Rules} {connection : Connection} {bytes : Bytes}
    (isOpen : connection.closed = false) (willing : connection.transport.Willing)
    (timely : Timely rules connection)
    (delivery : Source.Delivers bytes connection.transport.incoming) :
    let exchange := Exchange.of rules.registry rules.bodyLimit bytes
    ∃ middle, run rules connection =
        conclude rules connection.transport.peer (exchange.ending.finish middle) ∧
      middle.invocations = exchange.invocations ∧
      middle.sent = connection.transport.sent ++ exchange.written := by
  have same := connection_starting rules connection
  have limit : (starting rules connection).connection.bodyLimit = rules.bodyLimit := by
    rw [same]
    rfl
  rcases follows_or_late (fed_starting isOpen willing timely delivery) with
    ⟨middle, ends, follows⟩ | ⟨ending, middle, ends, late⟩
  · rw [limit] at ends follows
    refine ⟨middle, congrArg (conclude rules connection.transport.peer) ends, ?_, ?_⟩
    · rw [follows.invocations]
      simp [starting, opening]
    · rw [follows.sent, sent, same]
      rfl
  · exact absurd late (timely.not_late ends)

/-- Calls are sent by one side, and their bytes arrive at a session in any chunks and with any
interruptions. No deadline passes, no body is over the limit, the transport of the session takes all
writes, and every output has a length that a header can announce. Then the calls that come first and
whose handlers succeed are answered: their handlers are invoked in order, on the bodies that were
sent, and no other handler succeeds. Whoever reads the answers gets their outputs as frames, and is
then told that the peer went away. -/
theorem calls_are_answered {calls : List Call} {sender transmitted : Connection} {wire : Bytes}
    (sends : Call.sendAll calls sender = .ok () transmitted)
    (carries : transmitted.transport.sent = sender.transport.sent ++ wire)
    {rules : Rules} {connection : Connection} (isOpen : connection.closed = false)
    (willing : connection.transport.Willing) (timely : Timely rules connection)
    (delivery : Source.Delivers wire connection.transport.incoming)
    (within : ∀ call ∈ calls, ∀ limit, rules.bodyLimit = some limit →
      UInt64.ofNat call.body.length ≤ limit)
    (fitting : ∀ served ∈ Call.served rules.registry calls,
      served.answer.output.length < UInt64.size) :
    let answers := Call.served rules.registry calls
    let report := run rules connection
    (∃ failed : Option Invocation,
        report.session.invocations = answers.map Served.invocation ++ failed.toList ∧
          ∀ invocation ∈ failed, invocation.succeeded = false) ∧
      ∃ output, report.session.sent = connection.transport.sent ++ output ∧
        ∀ reader : Connection, reader.Unrestricted →
          Source.Delivers output reader.transport.incoming →
          Connection.Repeats Connection.readFramed reader (answers.map Served.reply)
            .disconnected := by
  have same : wire = Call.wire calls := by
    have written := Call.sent_of_sendAll sends
    rw [carries] at written
    exact List.append_cancel_left written
  subst same
  rcases run_follows isOpen willing timely delivery with ⟨middle, ends, invocations, sent⟩
  have answered := @Call.answered_wire rules.registry rules.bodyLimit calls within
  rcases conclude_of_streamless answered.streamless rules connection.transport.peer middle with
    ⟨sameSent, sameInvocations⟩
  rcases Connection.exists_replies fitting with ⟨replies, written, read⟩
  rcases answered.invocations with ⟨failed, invoked, wrong⟩
  rw [ends]
  refine ⟨⟨failed, ?_, wrong⟩, Call.wire replies, ?_, ?_⟩
  · rw [sameInvocations, invocations, invoked]
  · rw [sameSent, sent, answered.written, written]
  · intro reader unrestricted delivery
    rw [← read]
    exact Connection.repeats_wire unrestricted delivery

/-- Of two calls the first is echoed; nobody is registered for the name of the second. -/
theorem first_call_is_echoed :
    let echo : RequestHandler := ⟨"echo", fun _ body => modify (· ++ body)⟩
    ∃ transmitted, Call.sendAll [⟨"echo", .text "hi", by decide⟩, ⟨"gone", .bytes [], by decide⟩]
        (.bringing []) = .ok () transmitted ∧
      let report := run ⟨.addRequest .empty "echo" echo, some ⟨1, 0, by decide⟩, none, false⟩
        (.bringing (.ofBytes transmitted.transport.sent))
      report.session.invocations.filter Invocation.succeeded =
          [.request "echo" (.forRequest "echo" 2) [104, 105] ⟨[104, 105], none⟩] ∧
        Connection.Repeats Connection.readFramed (.bringing (.ofBytes report.session.sent))
          [(.forRequest "echo" 2, [104, 105])] .disconnected := by
  intro echo
  let first : Call := ⟨"echo", .text "hi", by decide⟩
  let second : Call := ⟨"gone", .bytes [], by decide⟩
  let registry : Registry := .addRequest .empty "echo" echo
  rcases Call.sendAll_of_willing [first, second] rfl rfl (Connection.willing_bringing []) with
    ⟨transmitted, sends⟩
  have carriedFirst : Header.carried "echo" = "echo" := rfl
  have carriedSecond : Header.carried "gone" = "gone" := rfl
  have known : registry.request? "echo" = some echo := rfl
  have unknown : registry.request? "gone" = none := rfl
  have fine (header : Header) (body : Bytes) : echo.answer header body = ⟨body, none⟩ := rfl
  have served : Call.served registry [first, second] = [⟨first, echo⟩] := by
    simp only [Call.served, first, second, carriedFirst, carriedSecond, known, unknown, fine]
  have header : first.header = .forRequest "echo" 2 := by
    rw [Call.header, carriedFirst]
    rfl
  have body : first.body = [104, 105] := rfl
  have invocation : Served.invocation ⟨first, echo⟩ =
      .request "echo" (.forRequest "echo" 2) [104, 105] ⟨[104, 105], none⟩ := by
    simp only [Served.invocation, Served.answer, header, body, fine, echo]
  have reply : Served.reply ⟨first, echo⟩ = (.forRequest "echo" 2, [104, 105]) := by
    simp only [Served.reply, Served.answer, body, fine, first, carriedFirst]
    rfl
  let rules : Rules := ⟨registry, some ⟨1, 0, by decide⟩, none, false⟩
  let connection : Connection := .bringing (.ofBytes transmitted.transport.sent)
  have timely : Timely rules connection := by
    apply timely_bringing
    intro limit limited
    cases limited
    decide
  have fitting : ∀ answered ∈ Call.served rules.registry [first, second],
      answered.answer.output.length < UInt64.size := by
    change ∀ answered ∈ Call.served registry [first, second], _
    rw [served]
    intro answered mem
    rw [List.mem_singleton] at mem
    rw [mem]
    exact first.fits
  have within : ∀ call ∈ [first, second], ∀ limit, rules.bodyLimit = some limit →
      UInt64.ofNat call.body.length ≤ limit := by
    intro call mem limit limited
    cases limited
  rcases @calls_are_answered _ _ _ _ sends rfl rules connection rfl (Connection.willing_bringing _)
    timely (Source.delivers_ofBytes _) within fitting with
    ⟨⟨failed, invocations, wrong⟩, output, sent, read⟩
  change _ = (Call.served registry [first, second]).map _ ++ _ at invocations
  change ∀ reader : Connection, _ → _ → Connection.Repeats _ _
    ((Call.served registry [first, second]).map _) _ at read
  rw [served, List.map_singleton, invocation] at invocations
  rw [served, List.map_singleton, reply] at read
  refine ⟨transmitted, sends, ?_, ?_⟩
  · change (run rules connection).session.invocations.filter _ = _
    have rejected : failed.toList.filter Invocation.succeeded = [] := by
      simpa [List.filter_eq_nil_iff] using wrong
    rw [invocations, List.filter_append, rejected]
    rfl
  · change Connection.Repeats _ (.bringing (.ofBytes (run rules connection).session.sent)) _ _
    have whole : (run rules connection).session.sent = output := sent
    rw [whole]
    exact read _ (Connection.unrestricted_bringing _) (Source.delivers_ofBytes _)

end Session

end Switchboard
