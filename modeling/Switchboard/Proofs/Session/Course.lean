import Switchboard.Proofs.Connection.Expenses
import Switchboard.Proofs.Session.Chronicle

/-!
# The course of a session

A session has no counter of its rounds. It comes to an end because of what it reads: every round but
the last one has taken a header from the bytes that arrive, so there are at most as many of them as
there are headers in these bytes, whatever else the scripts hold. Within a round the loops go on as
long as something is taken from a script. So the calls of a session are bounded by what its scripts
hold, too, and none of them is made behind the one that has ended it.

`Stops` lists the steps that can end a session, and with each of them the connection as this step
has left it.
-/

namespace Switchboard

/-- The header for which a handler was invoked. -/
def Invocation.header : Invocation → Header
  | .request _ header _ _ => header
  | .stream _ header => header

/-- A session comes to the ending because of its transport, or of its deadline. -/
def Exchange.Ending.External : Exchange.Ending → Prop
  | .over => True
  | .halted (.failure error) => error.External
  | _ => False

namespace Session

open Connection (Proceeds Ceases Fails Costs)
open Exchange (Ending)

variable {rules : Rules}

/-! ## What a round does -/

/-- The header that a round reads, if it comes to that. -/
def heard (rules : Rules) (before : Session) : Option Header :=
  match armIdle rules before with
  | .error _ _ => none
  | .ok () ready =>
      match Connection.readHeader ready.connection with
      | .error _ _ => none
      | .ok header _ => some header

/-- In a round that begins like this a header arrives. -/
structure Hears (rules : Rules) (before ready : Session) (header : Header) (heard : Connection) :
    Prop where
  armed : armIdle rules before = .ok () ready
  arrived : Connection.readHeader ready.connection = .ok header heard

/-- Why a header leads nowhere. -/
inductive Misled (rules : Rules) (header : Header) : Error → Prop
  | untyped (kind : header.kind = none) : Misled rules header (.invalidEndpointType header.tag)
  | unserved (kind : header.kind = some .request)
      (unknown : rules.registry.request? header.endpoint = none) :
      Misled rules header (.invalidEndpoint header.endpoint)
  | unopened (kind : header.kind = some .stream)
      (unknown : rules.registry.stream? header.endpoint = none) :
      Misled rules header (.invalidEndpoint header.endpoint)

/-- The step with which a session ends, or hands its connection over, in the round that begins like
this. The session is left as this step has left it. -/
inductive Stops (rules : Rules) (before : Session) : Ending → Session → Prop
  | barred {halt : Halt} {after : Session} (failed : armIdle rules before = .error halt after) :
      Stops rules before (.halted halt) after
  | struck {stage : Stage} {error : Error} {after : Session}
      (strikes : Strikes rules before stage error after) :
      Stops rules before (stage.ending error) after
  | misled {ready : Session} {header : Header} {heard : Connection} {error : Error}
      (hears : Hears rules before ready header heard) (misled : Misled rules header error) :
      Stops rules before (.halted (.failure error)) { ready with connection := heard }
  | troubled {ready : Session} {header : Header} {handler : RequestHandler} {body : Bytes}
      {trouble : Trouble} {heard fed : Connection}
      (asked : Asked rules before ready header handler heard)
      (read : Connection.readBody header heard = .ok body fed)
      (wrong : (handler.answer header body).trouble = some trouble) :
      Stops rules before (.halted (.ofTrouble trouble))
        (ready.invoked fed (.request handler.title header body (handler.answer header body)))
  | opened {ready : Session} {header : Header} {handler : StreamHandler} {heard : Connection}
      (hears : Hears rules before ready header heard) (kind : header.kind = some .stream)
      (known : rules.registry.stream? header.endpoint = some handler) :
      Stops rules before (.handedOver handler header)
        ((ready.invoked heard (.stream handler.title header)).telling rules
          [.handedOver header.endpoint])

/-- A round answers a request. -/
inductive Answers (rules : Rules) (before : Session) : Session → Prop
  | intro {ready : Session} {header : Header} {handler : RequestHandler} {body : Bytes}
      {count : Nat} {heard fed connection : Connection}
      (asked : Asked rules before ready header handler heard)
      (read : Connection.readBody header heard = .ok body fed)
      (fine : (handler.answer header body).trouble = none)
      (written : Connection.writeFramed header.endpoint (handler.answer header body).output fed =
        .ok count connection) :
      Answers rules before
        ((ready.invoked connection
          (.request handler.title header body (handler.answer header body))).telling rules
          [.served header.endpoint body.length (handler.answer header body).output.length])

/-- The headers that are read, round by round, until a round stops the session. -/
inductive Reads (rules : Rules) : Session → List Header → Prop
  | last {before after : Session} {ending : Ending} (stops : Stops rules before ending after) :
      Reads rules before (heard rules before).toList
  | more {before middle : Session} {header : Header} {later : List Header}
      (again : round rules before = .ok .again middle) (heard : heard rules before = some header)
      (reads : Reads rules middle later) : Reads rules before (header :: later)

theorem Asked.hears {before ready : Session} {header : Header} {handler : RequestHandler}
    {heard : Connection} (asked : Asked rules before ready header handler heard) :
    Hears rules before ready header heard :=
  ⟨asked.armed, asked.arrived⟩

theorem Hears.heard_eq {before ready : Session} {header : Header} {connection : Connection}
    (hears : Hears rules before ready header connection) : heard rules before = some header := by
  simp only [heard, hears.armed, hears.arrived]

theorem Answers.again {before after : Session} (answers : Answers rules before after) :
    round rules before = .ok .again after := by
  rcases answers with ⟨asked, read, fine, written⟩
  rw [round_of_header asked.armed asked.arrived]
  simp only [route, asked.kind, handleRequest, asked.known]
  rw [bind_of_ok]
  · rfl
  · rw [bind_of_ok (onConnection_of_ok read), bind_of_ok (invoke_of_no_trouble fine _),
      bind_of_ok (onConnection_of_ok written), tell_eq]
    rfl

theorem Misled.routed {header : Header} {error : Error} (misled : Misled rules header error)
    (session : Session) :
    route rules header session = .error (.failure error) session := by
  cases misled with
  | untyped kind =>
      simp only [route, kind]
      rfl
  | unserved kind unknown =>
      simp only [route, kind, handleRequest, unknown]
      rfl
  | unopened kind unknown =>
      simp only [route, kind, handleStream, unknown]
      rfl

theorem Stops.stop {before after : Session} {ending : Ending}
    (stops : Stops rules before ending after) :
    round rules before = ending.stop after := by
  cases stops with
  | barred failed => exact bind_of_error failed
  | struck strikes => exact strikes.stops
  | misled hears misled =>
      rw [round_of_header hears.armed hears.arrived, misled.routed]
      rfl
  | troubled asked read wrong =>
      refine asked.round_of_error ?_
      simp only [handleRequest, asked.known]
      rw [bind_of_ok (onConnection_of_ok read), bind_of_error (invoke_of_trouble wrong _)]
      rfl
  | opened hears kind known =>
      rw [round_of_header hears.armed hears.arrived]
      simp only [route, kind]
      exact over_of_finish (handleStream_of_known known _)

/-- A header with a handler for its request is answered, or the session stops over it. -/
theorem answers_or_stops_of_asked {before ready : Session} {header : Header}
    {handler : RequestHandler} {heard : Connection}
    (asked : Asked rules before ready header handler heard) :
    (∃ after, Answers rules before after) ∨ ∃ ending after, Stops rules before ending after := by
  cases read : Connection.readBody header heard with
  | error error stopped => exact Or.inr ⟨_, _, .struck (.reading asked read)⟩
  | ok body fed =>
      cases outcome : (handler.answer header body).trouble with
      | some trouble => exact Or.inr ⟨_, _, .troubled asked read outcome⟩
      | none =>
          cases written : Connection.writeFramed header.endpoint
            (handler.answer header body).output fed with
          | error error stopped =>
              exact Or.inr ⟨_, _, .struck (.answering asked read outcome written)⟩
          | ok count connection => exact Or.inl ⟨_, .intro asked read outcome written⟩

/-- A round answers a request, or the session stops in it. -/
theorem answers_or_stops (rules : Rules) (before : Session) :
    (∃ after, Answers rules before after) ∨ ∃ ending after, Stops rules before ending after := by
  cases armed : armIdle rules before with
  | error halt stopped => exact Or.inr ⟨_, _, .barred armed⟩
  | ok value ready =>
      cases arrived : Connection.readHeader ready.connection with
      | error error stopped => exact Or.inr ⟨_, _, .struck (.awaiting armed arrived)⟩
      | ok header heard =>
          have hears : Hears rules before ready header heard := ⟨armed, arrived⟩
          rcases kind : header.kind with _ | _ | _
          · exact Or.inr ⟨_, _, .misled hears (.untyped kind)⟩
          · cases known : rules.registry.request? header.endpoint with
            | none => exact Or.inr ⟨_, _, .misled hears (.unserved kind known)⟩
            | some handler => exact answers_or_stops_of_asked ⟨armed, arrived, kind, known⟩
          · cases known : rules.registry.stream? header.endpoint with
            | none => exact Or.inr ⟨_, _, .misled hears (.unopened kind known)⟩
            | some handler => exact Or.inr ⟨_, _, .opened hears kind known⟩

theorem answers_of_again {before after : Session} (again : round rules before = .ok .again after) :
    Answers rules before after := by
  rcases answers_or_stops rules before with ⟨other, answers⟩ | ⟨ending, other, stops⟩
  · have same := answers.again
    rw [again] at same
    cases same
    exact answers
  · rw [stops.stop] at again
    exact absurd again (stop_ne_again _ _ _)

theorem stops_of_stop {before middle : Session} {ending : Ending}
    (stop : round rules before = ending.stop middle) :
    ∃ ending after, Stops rules before ending after := by
  rcases answers_or_stops rules before with ⟨other, answers⟩ | stops
  · rw [answers.again] at stop
    exact absurd stop.symm (stop_ne_again _ _ _)
  · exact stops

/-! ## What it costs -/

/-- Setting the deadline for idling costs a look at the clock. It fails on the session's own
account. -/
theorem armIdle_costs (rules : Rules) (before : Session) :
    Leaves (fun ready : Session => Proceeds 0 1 before.connection ready.connection)
      (fun halt after => Fails (Ending.halted halt).External 1 before.connection after.connection)
      (armIdle rules before) := by
  have same : before.ticked.connection.means = before.connection.means := rfl
  have ticked : Proceeds 0 1 before.connection before.ticked.connection :=
    .of_call rfl not_false (by omega)
  cases patience : rules.patience with
  | none =>
      rw [armIdle_of_none patience]
      exact (Proceeds.refl _).weaken (by omega)
  | some limit =>
      rcases armIdle_of_some patience before with ⟨deadline, _, set⟩ | ⟨_, crashed⟩
      · rw [set, onConnection]
        cases closed : before.ticked.connection.closed with
        | true =>
            rw [Connection.setDeadline_of_closed closed]
            exact Or.inr ⟨not_false, ticked⟩
        | false =>
            rw [Connection.setDeadline_of_open closed]
            exact ticked
      · rw [crashed]
        exact Or.inr ⟨not_false, ticked⟩

theorem Hears.proceeds {before ready : Session} {header : Header} {connection : Connection}
    (hears : Hears rules before ready header connection) :
    Proceeds Header.width 1 before.connection connection := by
  have armed := (armIdle_costs rules before).ok hears.armed
  have read := (Connection.readHeader_costs ready.connection).ok hears.arrived
  exact (armed.trans read).weaken (by omega)

/-- A round that answers a request has paid for all its calls with the bytes of the header. -/
theorem Answers.proceeds {before after : Session} (answers : Answers rules before after) :
    Proceeds 0 0 before.connection after.connection := by
  rcases answers with ⟨asked, read, fine, written⟩
  have body := (Connection.readBody_costs _ _).ok read
  have answer := (Connection.writeMessage_costs _ _).ok written
  have width : 4 ≤ Header.width := by decide
  rw [connection_telling]
  exact ((asked.hears.proceeds.trans body).trans answer).weaken (by omega)

theorem external_ending_iff (stage : Stage) (error : Error) :
    (stage.ending error).External ↔ error.External := by
  cases stage with
  | awaiting =>
      simp only [Stage.ending, Ending.ofHeaderError]
      split
      · next departed =>
        refine ⟨fun _ => ?_, fun _ => trivial⟩
        cases error <;> simp_all [Error.isDisconnect, Error.External]
      · rfl
  | reading => rfl
  | answering => rfl

theorem Strikes.fails {before after : Session} {stage : Stage} {error : Error}
    (strikes : Strikes rules before stage error after) :
    Fails error.External 4 before.connection after.connection := by
  cases strikes with
  | awaiting armed failed =>
      have ready := (armIdle_costs rules before).ok armed
      exact ready.fails ((Connection.readHeader_costs _).error failed)
  | reading asked failed =>
      exact asked.hears.proceeds.fails ((Connection.readBody_costs _ _).error failed)
  | answering asked read fine failed =>
      have body := (Connection.readBody_costs _ _).ok read
      exact (asked.hears.proceeds.trans body).fails
        ((Connection.writeMessage_costs _ _).error failed)

theorem Stops.fails {before after : Session} {ending : Ending}
    (stops : Stops rules before ending after) :
    Fails ending.External 4 before.connection after.connection := by
  cases stops with
  | barred failed => exact ((armIdle_costs rules before).error failed).weaken (by omega)
  | struck strikes =>
      simp only [Fails, external_ending_iff]
      exact strikes.fails
  | misled hears misled =>
      refine Or.inr ⟨?_, hears.proceeds.weaken (by omega)⟩
      cases misled with
      | untyped | unserved | unopened => exact not_false
  | @troubled _ _ _ _ trouble _ _ asked read wrong =>
      have body := (Connection.readBody_costs _ _).ok read
      refine Or.inr ⟨?_, (asked.hears.proceeds.trans body).weaken (by omega)⟩
      cases trouble with
      | failed | crashed => exact not_false
  | opened hears kind known =>
      rw [connection_telling]
      exact Or.inr ⟨not_false, hears.proceeds.weaken (by omega)⟩

/-! ## Headers and handlers -/

theorem hears_of_heard {before : Session} {header : Header}
    (some : heard rules before = some header) :
    ∃ ready connection, Hears rules before ready header connection := by
  unfold heard at some
  split at some
  · cases some
  · next ready armed =>
    split at some
    · cases some
    · next arrived =>
      cases some
      exact ⟨ready, _, armed, arrived⟩

/-- A header that is read has been among the bytes that arrive. -/
theorem Hears.width_le {before ready : Session} {header : Header} {connection : Connection}
    (hears : Hears rules before ready header connection) :
    Header.width ≤ before.connection.transport.unread := by
  rcases ready_of_armIdle hears.armed with ⟨waiting, _, incoming, rfl⟩
  have arrived := hears.arrived
  have enough : Header.width ≤ waiting.outlook.data.length := by
    cases closed : waiting.closed with
    | true =>
        rw [Connection.readHeader_of_closed closed] at arrived
        cases arrived
    | false =>
        rcases Connection.readHeader_cases closed with
          ⟨_, _, enough, _⟩ | ⟨_, failed, _⟩ | ⟨_, _, failed, _⟩
        · exact enough
        · rw [failed] at arrived
          cases arrived
        · rw [failed] at arrived
          cases arrived
  rw [Transport.unread, ← incoming, Source.unread, Source.bytes_eq_outlook, List.length_append]
  exact Nat.le_trans enough (Nat.le_add_right _ _)

theorem heard_fits (rules : Rules) (before : Session) :
    Header.width * (heard rules before).toList.length ≤ before.connection.transport.unread := by
  cases got : heard rules before with
  | none => exact Nat.zero_le _
  | some header =>
      rcases hears_of_heard got with ⟨ready, connection, hears⟩
      simpa using hears.width_le

theorem invocations_of_armIdle {before ready : Session}
    (armed : armIdle rules before = .ok () ready) :
    ready.invocations = before.invocations := by
  rcases ready_of_armIdle armed with ⟨connection, _, _, rfl⟩
  rfl

/-- A session that stops invokes at most one more handler, and only for a header that it has
read. -/
theorem Stops.invokes {before after : Session} {ending : Ending}
    (stops : Stops rules before ending after) :
    ∃ invoked, after.invocations = before.invocations ++ invoked ∧
      invoked.map Invocation.header <+: (heard rules before).toList := by
  have same {ready : Session} (armed : armIdle rules before = .ok () ready) :=
    invocations_of_armIdle armed
  have one {ready : Session} {header : Header} {heard : Connection}
      (hears : Hears rules before ready header heard) :
      [header] <+: (Session.heard rules before).toList := by
    rw [hears.heard_eq]
    exact List.prefix_refl _
  cases stops with
  | @barred halt _ failed =>
      rcases armIdle_cases rules before with ⟨connection, _, _, done | ⟨other, stopped, _⟩⟩
      · rw [done] at failed
        cases failed
      · rw [stopped] at failed
        cases failed
        exact ⟨[], (List.append_nil _).symm, List.nil_prefix⟩
  | struck strikes =>
      cases strikes with
      | awaiting armed failed => exact ⟨[], by rw [same armed, List.append_nil], List.nil_prefix⟩
      | reading asked failed =>
          exact ⟨[], by rw [same asked.armed, List.append_nil], List.nil_prefix⟩
      | answering asked read fine failed =>
          exact ⟨[_], by rw [invoked, same asked.armed], one asked.hears⟩
  | misled hears misled => exact ⟨[], by rw [same hears.armed, List.append_nil], List.nil_prefix⟩
  | troubled asked read wrong => exact ⟨[_], by rw [invoked, same asked.armed], one asked.hears⟩
  | opened hears kind known =>
      exact ⟨[_], by rw [invocations_telling, invoked, same hears.armed], one hears⟩

/-- A request that is served has the header that its round has read. -/
theorem Serves.heard_eq {before after : Session} {request : Request}
    (serves : Serves rules before request after) (answers : Answers rules before after) :
    heard rules before = some request.header := by
  rcases answers with ⟨asked, read, fine, written⟩
  have listed := serves.invocations
  rw [invocations_telling, invoked, invocations_of_armIdle asked.armed] at listed
  have same := List.append_cancel_left listed
  simp only [List.cons.injEq, Request.invocation, Invocation.request.injEq, and_true] at same
  rw [asked.hears.heard_eq, same.2.1]

namespace Serving

variable {before after : Session} {requests : List Request}

theorem reads {middle : Session} {ending : Ending} (serving : Serving rules before requests after)
    (stops : Stops rules after ending middle) :
    Reads rules before (requests.map Request.header ++ (heard rules after).toList) := by
  induction serving with
  | nil session => exact .last stops
  | cons again serves told serving ih =>
      exact .more again (serves.heard_eq (answers_of_again again)) (ih stops)

theorem proceeds (serving : Serving rules before requests after) :
    Proceeds 0 0 before.connection after.connection := by
  induction serving with
  | nil session => exact .refl _
  | cons again serves told serving ih => exact (answers_of_again again).proceeds.trans ih

theorem invocations (serving : Serving rules before requests after) :
    after.invocations = before.invocations ++ requests.map Request.invocation := by
  induction serving with
  | nil session => rw [List.map_nil, List.append_nil]
  | cons again serves told serving ih =>
      rw [ih, serves.invocations, List.map_cons, List.append_assoc, List.singleton_append]

/-- Every request that is answered has taken a header from the bytes that arrive. -/
theorem unread (serving : Serving rules before requests after) :
    Header.width * requests.length + after.connection.transport.unread ≤
      before.connection.transport.unread := by
  induction serving with
  | nil session => simp
  | @cons before middle after request later again serves told serving ih =>
      have arrived : before.connection.transport.incoming.outlook =
        middle.connection.transport.incoming.outlook.prepend request.wire := serves.arrived
      have taken : before.connection.transport.unread =
          request.wire.length + middle.connection.transport.unread := by
        simp only [Transport.unread, Source.unread,
          Source.bytes_eq_outlook before.connection.transport.incoming,
          Source.bytes_eq_outlook middle.connection.transport.incoming, arrived,
          Source.Outlook.prepend, List.length_append]
        omega
      have width := serves.proper.width
      rw [Request.wire, List.length_append] at taken
      rw [List.length_cons, Nat.mul_succ]
      omega

end Serving

/-! ## The whole session -/

/-- How a session goes from its first round to the step that ends it. -/
structure Course (rules : Rules) (before : Session) (requests : List Request) (last : Session)
    (ending : Ending) (middle : Session) (headers : List Header) (calls : List Transport.Call) :
    Prop where
  /-- So many rounds are followed by another one, and each of them answers a request. -/
  serving : Serving rules before requests last
  /-- One more round comes behind them, and this is the step in it that ends the session. -/
  stops : Stops rules last ending middle
  ends : dispatch rules before = ending.finish middle
  /-- These are the headers that are read. -/
  reads : Reads rules before headers
  /-- Each round has read the header of its request. The last one may have read a header, too. -/
  requested : headers = requests.map Request.header ++ (heard rules last).toList
  fits : headers.length ≤ before.connection.transport.unread / Header.width
  /-- Handlers are invoked for headers that were read, in their order, and once at most for each of
  them. -/
  invoked : ∃ invoked, (settled (dispatch rules before)).invocations =
    before.invocations ++ invoked ∧
    invoked.map Invocation.header <+: headers ∧
    invoked.length ≤ before.connection.transport.unread / Header.width
  /-- These are the calls of the transport up to the step that ends the session. -/
  tally : Connection.Tally ending.External 4 before.connection middle.connection calls

/-- Every session comes to an end, whatever its scripts hold and whatever its handlers do. It has
read no more headers than fit in the bytes that arrive, and invoked no more handlers than that. The
calls that it makes are bounded by what the scripts hold, and none of them is made after the step
that ends it. -/
theorem every_session_ends (rules : Rules) (before : Session) :
    ∃ requests last ending middle headers calls,
      Course rules before requests last ending middle headers calls := by
  rcases exists_closing rules before with ⟨requests, last, account, closed, serving, stop, _⟩
  rcases stops_of_stop stop with ⟨ending, middle, stops⟩
  rcases (serving.proceeds.fails stops.fails).exists_tally with ⟨calls, tally⟩
  have ends : dispatch rules before = ending.finish middle := serving.ends stops.stop
  have fits : (requests.map Request.header ++ (heard rules last).toList).length ≤
      before.connection.transport.unread / Header.width := by
    have answered := serving.unread
    have another := heard_fits rules last
    rw [Nat.le_div_iff_mul_le (by decide), Nat.mul_comm, List.length_append, List.length_map,
      Nat.mul_add]
    omega
  rcases stops.invokes with ⟨more, invocations, beginning⟩
  have prefixed : (requests.map Request.invocation ++ more).map Invocation.header <+:
      requests.map Request.header ++ (heard rules last).toList := by
    rw [List.map_append, List.map_map]
    exact (List.prefix_append_right_inj _).mpr beginning
  have few := prefixed.length_le
  rw [List.length_map] at few
  refine ⟨requests, last, ending, middle, _, calls, serving, stops, ends, serving.reads stops, rfl,
    fits, ?_, tally⟩
  refine ⟨requests.map Request.invocation ++ more, ?_, prefixed, Nat.le_trans few fits⟩
  rw [ends, (records_finish ending middle).1, invocations, serving.invocations, List.append_assoc]

end Session

end Switchboard
