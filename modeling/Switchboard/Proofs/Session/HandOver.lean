import Switchboard.Proofs.Session.Reference

/-!
# Handing a connection over

After some requests a peer may ask for a stream. Then the connection is handed to the handler of
streams in exactly the state in which the header has left it: everything behind the header is still
to be read, whether or not it came in one chunk with the header, and nothing was sent but the
answers to the requests. What the header says about the size of a body does not matter. From then on
the session does nothing to the connection, and it ends as the handler ends.

If nobody is registered for streams under that name, the session ends there, and what is behind the
header is left. A handler of requests that is registered under the name makes no difference.

All this is said of sessions that get that far. One that is ended by a deadline or by an answer that
could not be sent is `Disturbed`. What might have ended a session and did not makes no difference: a
deadline that was never found to be reached, a time limit that was never set, a write that never
took place.
-/

namespace Switchboard.Session

open Exchange (Ending)
open Source (Outlook)

/-! ## Disturbances -/

/-- The ending is due to a deadline that was reached or could not be kept to, to a deadline that
does not exist, or to a write that has failed. No handler of streams was invoked before it. -/
structure Disturbance (rules : Rules) (before : Session) (ending : Ending) (after : Session) :
    Prop where
  cause : Late rules before ending ∨
    (¬Feasible rules before.connection ∧ ending = .halted (.crash beyondTime)) ∨
    (¬before.connection.transport.Willing ∧ ∃ fault, ending = .halted (.failure (.io fault)))
  invocations : ∃ requests : List Request,
    after.invocations = before.invocations ++ requests.map Request.invocation

/-- A disturbance has ended the session. -/
def Disturbed (rules : Rules) (before : Session) : Prop :=
  ∃ ending after, dispatch rules before = ending.finish after ∧
    Disturbance rules before ending after

/-- A disturbance ends the session in the round that comes next. -/
def DisturbedAtOnce (rules : Rules) (before : Session) : Prop :=
  ∃ ending after, round rules before = ending.stop after ∧ Disturbance rules before ending after

theorem DisturbedAtOnce.disturbed {rules : Rules} {before : Session}
    (disturbed : DisturbedAtOnce rules before) : Disturbed rules before := by
  rcases disturbed with ⟨ending, after, stops, disturbance⟩
  exact ⟨ending, after, dispatch_of_stop stops, disturbance⟩

theorem Serves.disturbed {rules : Rules} {before after : Session} {request : Request}
    (again : round rules before = .ok .again after) (serves : Serves rules before request after)
    (disturbed : Disturbed rules after) : Disturbed rules before := by
  rcases disturbed with ⟨ending, last, ends, cause, requests, invocations⟩
  refine ⟨ending, last, (dispatch_of_again again).trans ends, ?_, request :: requests, ?_⟩
  · rcases cause with late | ⟨infeasible, crashed⟩ | ⟨unwilling, failed⟩
    · exact Or.inl (serves.late late)
    · refine Or.inr (Or.inl ⟨?_, crashed⟩)
      intro feasible
      exact infeasible (feasible.held serves.held)
    · refine Or.inr (Or.inr ⟨?_, failed⟩)
      intro willing
      exact unwilling (serves.held.willing willing)
  · rw [invocations, serves.invocations, List.append_assoc]
    rfl

/-- A session without deadlines is not disturbed if its transport takes all writes. -/
theorem not_disturbed {rules : Rules} {before : Session} (endless : rules.patience = none)
    (untimed : before.connection.deadline = none) (willing : before.connection.transport.Willing) :
    ¬Disturbed rules before := by
  rintro ⟨ending, after, ends, late | ⟨infeasible, crashed⟩ | ⟨unwilling, failed⟩, streamless⟩
  · rcases late.timed with patient | limited
    · exact patient endless
    · exact limited untimed
  · apply infeasible
    intro limit patience
    rw [endless] at patience
    cases patience
  · exact unwilling willing

/-- A disturbance before any handler was invoked. -/
theorem disturbance_of_cause {rules : Rules} {before : Session} {ending : Ending}
    {connection : Connection}
    (cause : Late rules before ending ∨
      (¬Feasible rules before.connection ∧ ending = .halted (.crash beyondTime))) :
    Disturbance rules before ending { before with connection } :=
  ⟨cause.imp_right Or.inl, [], (List.append_nil _).symm⟩

theorem disturbance_of_bars {rules : Rules} {before : Session} {connection : Connection}
    {halt : Halt} (isOpen : before.connection.closed = false)
    (bars : Bars rules before.connection halt) :
    Disturbance rules before (.halted halt) { before with connection } := by
  rcases bars with closed | ⟨infeasible, rfl⟩
  · rw [isOpen] at closed
    cases closed
  · exact disturbance_of_cause (Or.inr ⟨infeasible, rfl⟩)

/-! ## One round -/

/-- There is only one way to read a request off the front of some bytes. -/
theorem Request.Proper.eq_of_wire_append {registry : Registry} {limit : Option UInt64}
    {first second : Request} (left : first.Proper registry limit)
    (right : second.Proper registry limit) {rest other : Bytes}
    (same : first.wire ++ rest = second.wire ++ other) : first = second := by
  rcases first with ⟨head, body, handler⟩
  rcases second with ⟨head', body', handler'⟩
  simp only [Request.wire, List.append_assoc] at same
  rcases List.append_inj same (left.width.trans right.width.symm) with ⟨heads, bodies⟩
  change head = head' at heads
  subst heads
  have sizes : body.length = body'.length := left.length.trans right.length.symm
  have handlers : some handler = some handler' := left.registered.symm.trans right.registered
  rw [(List.append_inj bodies sizes).1, Option.some.inj handlers]

theorem head_of_arrives {before : Session} {head rest : Bytes} (width : head.length = Header.width)
    (arrives : before.outlook.data = head ++ rest) : before.head = head := by
  rw [Session.head, arrives, List.take_left' width]

/-- A request that comes next is served, unless the round is disturbed. -/
theorem round_of_request {rules : Rules} {before : Session} {request : Request} {rest : Bytes}
    (isOpen : before.connection.closed = false)
    (proper : request.Proper rules.registry before.connection.bodyLimit)
    (fine : request.answer.trouble = none) (arrives : before.outlook.data = request.wire ++ rest) :
    (∃ after, round rules before = .ok .again after ∧ Serves rules before request after) ∨
      DisturbedAtOnce rules before := by
  have behind : before.outlook.data = request.head ++ (request.body ++ rest) := by
    rw [arrives, Request.wire, List.append_assoc]
  have header : Header.ofBytes before.head = request.header := by
    rw [head_of_arrives proper.width behind]
    rfl
  have unique : ∀ {other : Request} {outlook : Outlook},
      other.Proper rules.registry before.connection.bodyLimit →
        before.outlook = outlook.prepend other.wire → other = request := by
    intro other outlook properOther split
    have same : other.wire ++ outlook.data = request.wire ++ rest := by
      rw [← arrives, split, Outlook.prepend_data]
    exact properOther.eq_of_wire_append proper same
  have possible := rounded rules before
  simp only [DisturbedAtOnce]
  generalize round rules before = result at possible ⊢
  cases possible with
  | barred ready why => exact Or.inr ⟨_, _, rfl, disturbance_of_bars isOpen why⟩
  | short ready short left =>
      rw [behind, List.length_append, proper.width] at short
      omega
  | refused ready hinders =>
      exact Or.inr ⟨_, _, rfl, disturbance_of_cause (Or.inl ⟨_, hinders, Or.inr rfl⟩)⟩
  | untyped arrived kind =>
      rw [header, proper.kind] at kind
      cases kind
  | unopened arrived kind unregistered =>
      rw [header, proper.kind] at kind
      cases kind
  | opened arrived kind known =>
      rw [header, proper.kind] at kind
      cases kind
  | @unserved middle halt after arrived kind handled =>
      cases handled with
      | unknown unregistered =>
          rw [header, proper.registered] at unregistered
          cases unregistered
      | oversized known limited long =>
          rw [header] at long
          have within := proper.within _ (arrived.ready.bodyLimit.symm.trans limited)
          exact absurd long (UInt64.not_lt.mpr within)
      | missing known within short kept left =>
          rw [header, ← proper.length] at short
          change middle.outlook.data.length < request.body.length at short
          rw [arrived.left, Outlook.drop, behind, List.drop_left' proper.width,
            List.length_append] at short
          omega
      | refused refuses kept =>
          have hinders := arrived.ready.hinders refuses
          exact Or.inr ⟨_, _, rfl, disturbance_of_cause (Or.inl ⟨_, hinders, Or.inl rfl⟩)⟩
      | troubled reached wrong silent =>
          have same := unique (reached.proper arrived kind) (reached.prepend_wire arrived)
          rw [same, fine] at wrong
          cases wrong
      | @unsent other _ fault _ reached answered short part refuses =>
          refine Or.inr ⟨.halted (.failure (.io fault)), _, rfl, ?_, [other], rfl⟩
          by_cases willing : before.connection.transport.Willing
          · have hinders := arrived.ready.hinders (refuses (arrived.ready.willing willing))
            exact Or.inl ⟨_, hinders, Or.inl rfl⟩
          · exact Or.inr (Or.inr ⟨willing, _, rfl⟩)
  | served arrived kind handled =>
      left
      rcases serves_of_handled arrived kind handled with ⟨other, serves⟩
      have same := unique serves.proper serves.arrived
      rw [same] at serves
      exact ⟨_, rfl, serves⟩

/-- A stream that is asked for next is handed over, or there is no such endpoint, unless the round
is disturbed. -/
theorem round_of_stream (rules : Rules) {before : Session} {head rest : Bytes}
    (isOpen : before.connection.closed = false)
    (width : head.length = Header.width) (kind : (Header.ofBytes head).kind = some .stream)
    (arrives : before.outlook.data = head ++ rest) :
    (∃ connection, Arrived rules before connection ∧
        ((∃ handler, rules.registry.stream? (Header.ofBytes head).endpoint = some handler ∧
            round rules before = (Ending.handedOver handler (.ofBytes head)).stop
              ((before.invoked connection (.stream handler.title (.ofBytes head))).telling rules
                [.handedOver (Header.ofBytes head).endpoint])) ∨
          (rules.registry.stream? (Header.ofBytes head).endpoint = none ∧
            round rules before =
              .error (.failure (.invalidEndpoint (Header.ofBytes head).endpoint))
                { before with connection }))) ∨
      DisturbedAtOnce rules before := by
  have next := head_of_arrives width arrives
  have possible := rounded rules before
  simp only [DisturbedAtOnce]
  generalize round rules before = result at possible ⊢
  cases possible with
  | barred ready why => exact Or.inr ⟨_, _, rfl, disturbance_of_bars isOpen why⟩
  | short ready short left =>
      rw [arrives, List.length_append, width] at short
      omega
  | refused ready hinders =>
      exact Or.inr ⟨_, _, rfl, disturbance_of_cause (Or.inl ⟨_, hinders, Or.inr rfl⟩)⟩
  | untyped arrived none =>
      rw [next, kind] at none
      cases none
  | unopened arrived asked unregistered =>
      rw [next] at unregistered ⊢
      exact Or.inl ⟨_, arrived, Or.inr ⟨unregistered, rfl⟩⟩
  | opened arrived asked known =>
      rw [next] at known ⊢
      exact Or.inl ⟨_, arrived, Or.inl ⟨_, known, rfl⟩⟩
  | unserved arrived asked handled =>
      rw [next, kind] at asked
      cases asked
  | served arrived asked handled =>
      rw [next, kind] at asked
      cases asked

/-! ## The whole session -/

/-- A connection on which some requests were answered and one more header was read. -/
structure Reaches (session : Session) (requests : List Request) (head rest : Bytes)
    (connection : Connection) : Prop where
  isOpen : connection.closed = false
  outlook : connection.outlook = ⟨rest, session.outlook.stop, session.outlook.later⟩
  unread : session.connection.transport.incoming.bytes =
    requests.flatMap Request.wire ++ (head ++ connection.transport.incoming.bytes)
  sent : connection.transport.sent = session.sent ++ requests.flatMap Request.response

/-- A session that got past some requests by answering them. -/
structure Passes (rules : Rules) (before : Session) (requests : List Request) (after : Session) :
    Prop where
  onward : dispatch rules before = dispatch rules after
  outlook : before.outlook = after.outlook.prepend (requests.flatMap Request.wire)
  invocations : after.invocations = before.invocations ++ requests.map Request.invocation
  sent : after.sent = before.sent ++ requests.flatMap Request.response
  isOpen : after.connection.closed = false
  undisturbed : ¬Disturbed rules after

theorem Serves.passes {rules : Rules} {before middle after : Session} {request : Request}
    {later : List Request} (again : round rules before = .ok .again middle)
    (serves : Serves rules before request middle) (passes : Passes rules middle later after) :
    Passes rules before (request :: later) after where
  onward := (dispatch_of_again again).trans passes.onward
  outlook := by
    rw [serves.arrived, passes.outlook, Outlook.prepend_prepend]
    rfl
  invocations := by
    rw [passes.invocations, serves.invocations]
    simp
  sent := by
    rw [passes.sent, serves.sent]
    simp
  isOpen := passes.isOpen
  undisturbed := passes.undisturbed

theorem passes_requests {rules : Rules} {before : Session} {requests : List Request} {rest : Bytes}
    (isOpen : before.connection.closed = false)
    (undisturbed : ¬Disturbed rules before)
    (proper : ∀ request ∈ requests, request.Proper rules.registry before.connection.bodyLimit)
    (fine : ∀ request ∈ requests, request.answer.trouble = none)
    (arrives : before.outlook.data = requests.flatMap Request.wire ++ rest) :
    ∃ after, Passes rules before requests after ∧ after.outlook.data = rest := by
  -- Each round takes one request off the front of the data; that the session is not disturbed is
  -- handed on.
  induction requests generalizing before with
  | nil =>
      refine ⟨before, ?_, arrives⟩
      constructor
      · rfl
      · rfl
      · simp
      · simp
      · exact isOpen
      · exact undisturbed
  | cons request later ih =>
      rw [List.flatMap_cons, List.append_assoc] at arrives
      rcases round_of_request isOpen (proper request List.mem_cons_self)
        (fine request List.mem_cons_self) arrives with ⟨middle, again, serves⟩ | disturbed
      · have left : middle.outlook.data = later.flatMap Request.wire ++ rest := by
          rw [serves.arrived, Outlook.prepend_data] at arrives
          exact List.append_cancel_left arrives
        have properLater : ∀ other ∈ later,
            other.Proper rules.registry middle.connection.bodyLimit := by
          intro other among
          rw [serves.held.bodyLimit]
          exact proper other (List.mem_cons_of_mem _ among)
        rcases ih (serves.held.closed.trans isOpen)
          (fun disturbed => undisturbed (serves.disturbed again disturbed)) properLater
          (fun other among => fine other (List.mem_cons_of_mem _ among)) left with
          ⟨after, passes, behind⟩
        exact ⟨after, serves.passes again passes, behind⟩
      · exact absurd disturbed.disturbed undisturbed

theorem Passes.reaches {rules : Rules} {before middle : Session} {requests : List Request}
    {head rest : Bytes} {connection : Connection} (passes : Passes rules before requests middle)
    (arrived : Arrived rules middle connection) (width : head.length = Header.width)
    (arrives : middle.outlook.data = head ++ rest) :
    Reaches before requests head rest connection := by
  have left : connection.outlook = ⟨rest, before.outlook.stop, before.outlook.later⟩ := by
    rw [arrived.left, Outlook.drop, arrives, List.drop_left' width, passes.outlook]
    rfl
  constructor
  · exact arrived.ready.closed.trans arrived.isOpen
  · exact left
  · have view : connection.transport.incoming.outlook = _ := left
    have data : before.connection.transport.incoming.outlook.data =
        requests.flatMap Request.wire ++ (head ++ rest) := by
      rw [← arrives]
      exact congrArg Outlook.data passes.outlook
    rw [Source.bytes_eq_outlook, Source.bytes_eq_outlook connection.transport.incoming, view, data]
    simp [Session.outlook, Connection.outlook]
  · rw [arrived.ready.sent]
    exact passes.sent

/-- Once the connection is handed over, the session ends as the handler ends and leaves what the
handler leaves. -/
theorem dispatch_of_opened {rules : Rules} {before : Session} {connection : Connection}
    {handler : StreamHandler} {header : Header} {events : List Event}
    (opens : round rules before = (Ending.handedOver handler header).stop
      ((before.invoked connection (.stream handler.title header)).telling rules events)) :
    ∃ final, final.invocations = before.invocations ++ [.stream handler.title header] ∧
      ((handler.run header connection = .ok () final.connection ∧
          dispatch rules before = .ok () final) ∨
        ∃ trouble, handler.run header connection = .error trouble final.connection ∧
          dispatch rules before = .error (.ofTrouble trouble) final) := by
  rw [dispatch_of_stop opens]
  simp only [Ending.finish, handOver, connection_telling, invoked]
  cases ran : handler.run header connection with
  | ok value after =>
      refine ⟨_, ?_, Or.inl ⟨rfl, rfl⟩⟩
      simp
  | error trouble after =>
      refine ⟨_, ?_, Or.inr ⟨trouble, rfl, rfl⟩⟩
      simp

/-- A session that answered some requests gets to the header behind them. There the handler of
streams for its name is invoked on the connection, or there is none and the session fails. -/
theorem streams_are_handed_over {rules : Rules} {session : Session} {requests : List Request}
    {head rest : Bytes} (isOpen : session.connection.closed = false)
    (undisturbed : ¬Disturbed rules session)
    (proper : ∀ request ∈ requests, request.Proper rules.registry session.connection.bodyLimit)
    (fine : ∀ request ∈ requests, request.answer.trouble = none)
    (width : head.length = Header.width) (tag : (Header.ofBytes head).tag = 1)
    (arrives : session.outlook.data = requests.flatMap Request.wire ++ (head ++ rest)) :
    ∃ connection, Reaches session requests head rest connection ∧
      (∀ handler, rules.registry.stream? (Header.ofBytes head).endpoint = some handler →
        ∃ final,
          final.invocations = session.invocations ++ requests.map Request.invocation ++
            [.stream handler.title (.ofBytes head)] ∧
          ((handler.run (.ofBytes head) connection = .ok () final.connection ∧
              dispatch rules session = .ok () final) ∨
            ∃ trouble, handler.run (.ofBytes head) connection = .error trouble final.connection ∧
              dispatch rules session = .error (.ofTrouble trouble) final)) ∧
      (rules.registry.stream? (Header.ofBytes head).endpoint = none →
        ∃ final, final.connection = connection ∧
          final.invocations = session.invocations ++ requests.map Request.invocation ∧
          dispatch rules session =
            .error (.failure (.invalidEndpoint (Header.ofBytes head).endpoint)) final) := by
  have kind : (Header.ofBytes head).kind = some .stream :=
    EndpointKind.ofTag?_eq_some_iff.mpr tag
  rcases passes_requests isOpen undisturbed proper fine arrives with ⟨middle, passes, behind⟩
  rw [passes.onward, ← passes.invocations]
  rcases round_of_stream rules passes.isOpen width kind behind with
    ⟨connection, arrived, ⟨handler, known, opens⟩ | ⟨unregistered, fails⟩⟩ | disturbed
  · refine ⟨connection, passes.reaches arrived width behind, ?_, ?_⟩
    · intro other registered
      rw [known] at registered
      cases registered
      exact dispatch_of_opened opens
    · intro unregistered
      rw [known] at unregistered
      cases unregistered
  · refine ⟨connection, passes.reaches arrived width behind, ?_, ?_⟩
    · intro handler known
      rw [unregistered] at known
      cases known
    · intro _
      refine ⟨{ middle with connection }, rfl, rfl, ?_⟩
      rw [dispatch_eq, fails]
  · exact absurd disturbed.disturbed passes.undisturbed

/-- A chunk that ends inside the header of a stream, after an echoed request. The handler of the
stream fails and reads nothing of the two bytes behind the header, whose nine bytes of body nobody
awaits. -/
theorem stream_behind_request :
    let echo : RequestHandler := ⟨"echo", fun _ body => modify (· ++ body)⟩
    let tap : StreamHandler := ⟨"tap", fun _ => throw (.failed "full")⟩
    let asked : Header := ⟨1, 0, .zero, 9, "", "tap"⟩
    let bytes := Connection.frame "echo" [7] ++ (asked.encode ++ [1, 2])
    ∃ final,
      dispatch ⟨.addStream (.addRequest .empty "echo" echo) "tap" tap, none, none, false⟩
          ⟨.bringing (Source.ofBytes (bytes.take 300) ++
            .fault (.plain .interrupted) :: Source.ofBytes (bytes.drop 300)), [], []⟩ =
        .error (.failure (.handler "full")) final ∧
      final.invocations = [.request "echo" (.forRequest "echo" 1) [7] ⟨[7], none⟩,
        .stream "tap" asked] ∧
      final.sent = Connection.frame "echo" [7] ∧
      final.connection.transport.incoming.bytes = [1, 2] := by
  intro echo tap asked bytes
  let rules : Rules := ⟨.addStream (.addRequest .empty "echo" echo) "tap" tap, none, none, false⟩
  let source : Source := Source.ofBytes (bytes.take 300) ++
    .fault (.plain .interrupted) :: Source.ofBytes (bytes.drop 300)
  let session : Session := ⟨.bringing source, [], []⟩
  let request : Request := ⟨(Header.forRequest "echo" 1).encode, [7], echo⟩
  have carried : Header.carried "echo" = "echo" := rfl
  have header : request.header = .forRequest "echo" 1 := by
    have whole := (Header.forRequest "echo" 1).ofBytes_encode_append []
    rwa [List.append_nil, Header.received_forRequest, carried] at whole
  have read : Header.ofBytes asked.encode = asked := by
    have noTimeout : Duration.ofMillis (UInt64.ofNat (Header.timeoutWord .zero)) = .zero := rfl
    have noContentType : Header.carried "" = "" := rfl
    have name : Header.carried "tap" = "tap" := rfl
    have kept : asked.received = asked := by
      simp only [asked, Header.received, noTimeout, noContentType, name]
    have whole := asked.ofBytes_encode_append []
    rwa [List.append_nil, kept] at whole
  have view : session.outlook = ⟨bytes, none, []⟩ := by
    change Source.outlook source = _
    have later : Source.outlook (.fault (.plain .interrupted) :: Source.ofBytes (bytes.drop 300)) =
        ⟨bytes.drop 300, none, []⟩ := by
      have whole := (Source.delivers_ofBytes (bytes.drop 300)).outlook_eq
      rw [Source.outlook, whole]
      rfl
    rw [Source.outlook_ofBytes_append, later, Outlook.prepend, List.take_append_drop]
  have proper : request.Proper rules.registry none := by
    constructor
    · exact Header.length_encode _
    · rw [header]
      rfl
    · rw [header]
      rfl
    · rw [header]
      rfl
    · intro bound limited
      cases limited
  have undisturbed : ¬Disturbed rules session :=
    not_disturbed rfl rfl (Connection.willing_bringing _)
  have arrives : session.outlook.data = [request].flatMap Request.wire ++
      (asked.encode ++ [1, 2]) := by
    rw [view]
    have wire : request.wire = Connection.frame "echo" [7] := rfl
    simp [wire, bytes]
  have tag : (Header.ofBytes asked.encode).tag = 1 := by
    rw [read]
  have registered : rules.registry.stream? (Header.ofBytes asked.encode).endpoint = some tap := by
    rw [read]
    rfl
  rcases streams_are_handed_over rfl undisturbed
      (fun other among => List.mem_singleton.mp among ▸ proper)
      (fun other among => List.mem_singleton.mp among ▸ rfl)
      (Header.length_encode _) tag arrives with
    ⟨connection, reaches, known, _⟩
  rcases known tap registered with ⟨final, invocations, ⟨ran, _⟩ | ⟨trouble, ran, ends⟩⟩
  · cases ran
  · have fails : (.error (.failed "full") connection : EStateM.Result Trouble Connection Unit) =
        .error trouble final.connection := ran
    rw [EStateM.Result.error.injEq] at fails
    rcases fails with ⟨rfl, same⟩
    refine ⟨final, ends, ?_, ?_, ?_⟩
    · rw [invocations, read, List.map_singleton, Request.invocation, Request.answer, header]
      rfl
    · rw [sent, ← same, reaches.sent, List.flatMap_singleton, Request.response,
        Request.answer, header]
      rfl
    · have behind : final.connection.transport.incoming.outlook = ⟨[1, 2], none, []⟩ := by
        rw [← same, ← Connection.outlook, reaches.outlook, view]
      rw [Source.bytes_eq_outlook, behind]
      rfl

end Switchboard.Session
