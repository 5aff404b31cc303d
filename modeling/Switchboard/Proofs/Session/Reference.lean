import Switchboard.Proofs.Connection.Frames
import Switchboard.Proofs.Session.Answers

/-!
# Sessions and exchanges

A session that gets some bytes in any chunks and with any interruptions does what the exchange says
that these bytes lead to: it invokes the same handlers, sends the same bytes, leaves the same bytes
unread and comes to the same ending. The only way out is a deadline that passes, and without
deadlines there is none.

An exchange is unfolded case by case first. Then each round is compared with one step of the
exchange, and the session with all of it.
-/

namespace Switchboard

open Session (Request)

namespace Exchange

variable {registry : Registry} {limit : Option UInt64} {bytes : Bytes}

/-! ## Exchanges, case by case -/

theorem of_short (short : bytes.length < Header.width) :
    of registry limit bytes = ⟨[], [], [], .over⟩ := by
  rw [of, if_pos short]

theorem of_untyped (enough : Header.width ≤ bytes.length)
    (kind : (Header.ofBytes bytes).kind = none) :
    of registry limit bytes =
      failing (.invalidEndpointType (Header.ofBytes bytes).tag) (bytes.drop Header.width) := by
  rw [of, if_neg (Nat.not_lt.mpr enough)]
  simp only [kind]

theorem of_unopened (enough : Header.width ≤ bytes.length)
    (kind : (Header.ofBytes bytes).kind = some .stream)
    (unregistered : registry.stream? (Header.ofBytes bytes).endpoint = none) :
    of registry limit bytes =
      failing (.invalidEndpoint (Header.ofBytes bytes).endpoint) (bytes.drop Header.width) := by
  rw [of, if_neg (Nat.not_lt.mpr enough)]
  simp only [kind, unregistered]

theorem of_opened (enough : Header.width ≤ bytes.length)
    (kind : (Header.ofBytes bytes).kind = some .stream) {handler : StreamHandler}
    (known : registry.stream? (Header.ofBytes bytes).endpoint = some handler) :
    of registry limit bytes =
      ⟨[.stream handler.title (.ofBytes bytes)], [], bytes.drop Header.width,
        .handedOver handler (.ofBytes bytes)⟩ := by
  rw [of, if_neg (Nat.not_lt.mpr enough)]
  simp only [kind, known]

theorem of_unknown (enough : Header.width ≤ bytes.length)
    (kind : (Header.ofBytes bytes).kind = some .request)
    (unregistered : registry.request? (Header.ofBytes bytes).endpoint = none) :
    of registry limit bytes =
      failing (.invalidEndpoint (Header.ofBytes bytes).endpoint) (bytes.drop Header.width) := by
  rw [of, if_neg (Nat.not_lt.mpr enough)]
  simp only [kind, unregistered]

/-- A request whose body cannot be read ends the exchange. -/
theorem of_unread (enough : Header.width ≤ bytes.length)
    (kind : (Header.ofBytes bytes).kind = some .request) {handler : RequestHandler}
    (known : registry.request? (Header.ofBytes bytes).endpoint = some handler)
    {exchange : Exchange}
    (wrong : bodyError? limit (Header.ofBytes bytes).bodySize (bytes.drop Header.width) =
      some exchange) :
    of registry limit bytes = exchange := by
  rw [of, if_neg (Nat.not_lt.mpr enough)]
  simp only [kind, known, wrong]

theorem bodyError?_of_over {size bound : UInt64} (limited : limit = some bound)
    (long : bound < size) (rest : Bytes) :
    bodyError? limit size rest = some (failing (.bodyTooLarge size bound) rest) := by
  simp [bodyError?, limited, Option.filter, long]

theorem filter_of_within {size : UInt64} (within : ∀ bound, limit = some bound → size ≤ bound) :
    limit.filter (· < size) = none := by
  cases limit with
  | none => rfl
  | some bound => simpa [Option.filter] using within bound rfl

theorem bodyError?_of_short {size : UInt64} (within : ∀ bound, limit = some bound → size ≤ bound)
    {rest : Bytes} (short : rest.length < size.toNat) :
    bodyError? limit size rest =
      some (failing (.truncatedBody size (UInt64.ofNat rest.length)) []) := by
  simp only [bodyError?, filter_of_within within, if_pos short]

theorem bodyError?_of_enough {size : UInt64} (within : ∀ bound, limit = some bound → size ≤ bound)
    {rest : Bytes} (enough : size.toNat ≤ rest.length) : bodyError? limit size rest = none := by
  simp only [bodyError?, filter_of_within within, if_neg (Nat.not_lt.mpr enough)]

theorem ofBytes_wire_append {request : Request} (proper : request.Proper registry limit)
    (rest : Bytes) : Header.ofBytes (request.wire ++ rest) = request.header := by
  rw [← Header.ofBytes_take, Request.wire, List.append_assoc, List.take_left' proper.width]
  rfl

/-- A request that is complete goes to its handler. -/
theorem of_request {request : Request} (proper : request.Proper registry limit) (rest : Bytes) :
    of registry limit (request.wire ++ rest) =
      match request.answer.trouble with
      | some trouble => ⟨[request.invocation], [], rest, .halted (.ofTrouble trouble)⟩
      | none => (of registry limit rest).after request.invocation request.response := by
  have enough : ¬(request.wire ++ rest).length < Header.width := by
    simp [Request.wire, proper.width]
  have behind : (request.wire ++ rest).drop Header.width = request.body ++ rest := by
    rw [Request.wire, List.append_assoc, List.drop_left' proper.width]
  have readable : bodyError? limit request.header.bodySize (request.body ++ rest) = none := by
    apply bodyError?_of_enough proper.within
    rw [List.length_append, proper.length]
    exact Nat.le_add_right _ _
  rw [of, if_neg enough]
  simp only [ofBytes_wire_append proper, proper.kind, proper.registered, behind, readable,
    List.take_left' proper.length, List.drop_left' proper.length]
  rfl

end Exchange

namespace Session

open Exchange (Ending)
open Source (Outlook)

/-- A session has done what an exchange says. -/
structure Follows (exchange : Exchange) (before middle : Session) : Prop where
  invocations : middle.invocations = before.invocations ++ exchange.invocations
  sent : middle.sent = before.sent ++ exchange.written
  left : middle.outlook = ⟨exchange.unread, none, []⟩

/-- Some bytes arrive on an open connection that sends whatever it is given, and deadlines exist. -/
structure Fed (rules : Rules) (bytes : Bytes) (session : Session) : Prop where
  isOpen : session.connection.closed = false
  willing : session.connection.transport.Willing
  feasible : Feasible rules session.connection
  arrives : session.outlook = ⟨bytes, none, []⟩

/-- A session ends in a round, and has done what an exchange says. -/
def EndsAs (exchange : Exchange) (before : Session) (result : EStateM.Result Halt Session Next) :
    Prop :=
  ∃ middle, result = exchange.ending.stop middle ∧ Follows exchange before middle

/-- The ending is due to a fault. While a header is awaited, some faults mean that the peer has
gone. -/
def DueTo (fault : Fault) (ending : Ending) : Prop :=
  ending = .halted (.failure (.io fault)) ∨ ending = .ofHeaderError (Header.interrupted fault)

/-- A deadline keeps a session from going on: it was found to be reached, or a time limit that was
to be set for it was refused. The ending is due to that. -/
def Late (rules : Rules) (before : Session) (ending : Ending) : Prop :=
  ∃ fault, Hinders rules before.connection fault ∧ DueTo fault ending

theorem Late.timed {rules : Rules} {before : Session} {ending : Ending}
    (late : Late rules before ending) : Timed rules before.connection := by
  rcases late with ⟨fault, hinders, due⟩
  exact hinders.1

/-- If all time limits can be set, a deadline was found to be reached. -/
theorem Late.of_settable {rules : Rules} {before : Session} {ending : Ending}
    (late : Late rules before ending) (settable : before.connection.transport.Settable) :
    MayExpire rules before.connection ∧ ending = .halted (.failure (.io .pastDeadline)) := by
  rcases late with ⟨fault, ⟨_, ⟨rfl, mayExpire⟩ | withholds⟩, due⟩
  · exact ⟨mayExpire, due.elim id id⟩
  · exact absurd withholds (settable.not_withholds fault)

theorem endsAs_failing {before : Session} {connection : Connection} {unread : Bytes}
    (silent : connection.transport.sent = before.sent)
    (left : connection.outlook = ⟨unread, none, []⟩) (error : Error) :
    EndsAs (.failing error unread) before (.error (.failure error) { before with connection }) := by
  refine ⟨_, rfl, ?_⟩
  constructor
  · simp [Exchange.failing]
  · simpa [Exchange.failing, sent] using silent
  · exact left

theorem Fed.header {rules : Rules} {bytes : Bytes} {before : Session}
    (fed : Fed rules bytes before) :
    Header.ofBytes before.head = Header.ofBytes bytes := by
  rw [head, fed.arrives, Header.ofBytes_take]

/-- What is left after a header arrived. -/
theorem Fed.left {rules : Rules} {bytes : Bytes} {before : Session} (fed : Fed rules bytes before)
    {connection : Connection} (arrived : Arrived rules before connection) :
    connection.outlook = ⟨bytes.drop Header.width, none, []⟩ := by
  rw [arrived.left, fed.arrives]
  rfl

theorem Fed.enough {rules : Rules} {bytes : Bytes} {before : Session} (fed : Fed rules bytes before)
    {connection : Connection} (arrived : Arrived rules before connection) :
    Header.width ≤ bytes.length := by
  have enough := arrived.enough
  rwa [fed.arrives] at enough

/-- What is left after some of the bytes were taken from the front. -/
theorem Fed.rest {rules : Rules} {bytes taken : Bytes} {before : Session}
    (fed : Fed rules bytes before) {outlook : Outlook}
    (split : before.outlook = outlook.prepend taken) :
    outlook = ⟨outlook.data, none, []⟩ ∧ bytes = taken ++ outlook.data := by
  rw [fed.arrives] at split
  rcases outlook with ⟨data, stop, later⟩
  cases split
  exact ⟨rfl, rfl⟩

/-- A request that is not served ends the session as the exchange says, unless a deadline does. -/
theorem endsAs_of_handled {rules : Rules} {bytes : Bytes} {before after : Session}
    {middle : Connection} {halt : Halt} (fed : Fed rules bytes before)
    (arrived : Arrived rules before middle)
    (kind : (Header.ofBytes before.head).kind = some .request)
    (handled : Handled rules before.head { before with connection := middle } (.error halt after)) :
    EndsAs (.of rules.registry before.connection.bodyLimit bytes) before (.error halt after) ∨
      Late rules before (.halted halt) := by
  have silent := arrived.ready.sent
  have behind := fed.left arrived
  have enough := fed.enough arrived
  have header := fed.header
  cases handled with
  | unknown unregistered =>
      left
      rw [header] at kind unregistered ⊢
      rw [Exchange.of_unknown enough kind unregistered]
      exact endsAs_failing silent behind _
  | oversized known limited long =>
      left
      rw [header] at kind known long ⊢
      have limit := arrived.ready.bodyLimit.symm.trans limited
      rw [Exchange.of_unread enough kind known (Exchange.bodyError?_of_over limit long _)]
      exact endsAs_failing silent behind _
  | missing known within short kept remaining =>
      left
      rw [header] at kind known within short ⊢
      change middle.transport.incoming.outlook = _ at behind
      simp only [outlook, Connection.outlook, behind] at short remaining ⊢
      rw [arrived.ready.bodyLimit] at within
      rw [Exchange.of_unread enough kind known (Exchange.bodyError?_of_short within short)]
      refine endsAs_failing (kept.sent.trans silent) ?_ _
      rw [Connection.outlook, remaining]
      rfl
  | refused refuses kept => exact Or.inr ⟨_, arrived.ready.hinders refuses, Or.inl rfl⟩
  | @troubled request connection trouble reached wrong quiet =>
      left
      rcases fed.rest (reached.prepend_wire arrived) with ⟨rest, split⟩
      have exchange := Exchange.of_request (reached.proper arrived kind) connection.outlook.data
      rw [← split, wrong] at exchange
      rw [exchange]
      refine ⟨_, rfl, ?_⟩
      constructor
      · simp [invoked]
      · simpa [sent, invoked] using quiet.trans silent
      · exact rest
  | unsent reached fine short part refuses =>
      have hinders := arrived.ready.hinders (refuses (arrived.ready.willing fed.willing))
      exact Or.inr ⟨_, hinders, Or.inl rfl⟩

/-- A round serves a request or ends the session as the exchange says, unless a deadline does. -/
theorem round_serves_or_endsAs {rules : Rules} {bytes : Bytes} {before : Session}
    (fed : Fed rules bytes before) :
    (∃ request after, round rules before = .ok .again after ∧ Serves rules before request after) ∨
      EndsAs (.of rules.registry before.connection.bodyLimit bytes) before (round rules before) ∨
      ∃ ending middle, round rules before = ending.stop middle ∧ Late rules before ending := by
  have possible := rounded rules before
  generalize round rules before = result at possible
  cases possible with
  | barred ready why =>
      rcases why with closed | ⟨infeasible, _⟩
      · rw [fed.isOpen] at closed
        cases closed
      · exact absurd fed.feasible infeasible
  | short ready short remaining =>
      right
      left
      rw [fed.arrives] at short remaining ⊢
      rw [Exchange.of_short short]
      refine ⟨_, rfl, ?_⟩
      constructor
      · simp
      · simpa [sent] using ready.sent
      · rw [outlook, Connection.outlook, remaining]
        rfl
  | refused ready hinders => exact Or.inr (Or.inr ⟨_, _, rfl, _, hinders, Or.inr rfl⟩)
  | untyped arrived kind =>
      right
      left
      rw [fed.header] at kind ⊢
      rw [Exchange.of_untyped (fed.enough arrived) kind]
      exact endsAs_failing arrived.ready.sent (fed.left arrived) _
  | unopened arrived kind unregistered =>
      right
      left
      rw [fed.header] at kind unregistered ⊢
      rw [Exchange.of_unopened (fed.enough arrived) kind unregistered]
      exact endsAs_failing arrived.ready.sent (fed.left arrived) _
  | opened arrived kind known =>
      right
      left
      rw [fed.header] at kind known ⊢
      rw [Exchange.of_opened (fed.enough arrived) kind known]
      refine ⟨_, rfl, ?_⟩
      constructor
      · simp [invoked]
      · simpa [sent, invoked] using arrived.ready.sent
      · simpa [outlook, invoked] using fed.left arrived
  | unserved arrived kind handled =>
      rcases endsAs_of_handled fed arrived kind handled with endsAs | late
      · exact Or.inr (Or.inl endsAs)
      · exact Or.inr (Or.inr ⟨_, _, rfl, late⟩)
  | served arrived kind handled =>
      rcases serves_of_handled arrived kind handled with ⟨request, serves⟩
      exact Or.inl ⟨request, _, rfl, serves⟩

/-- After a request was served the rest of the bytes is fed to the session. -/
theorem Serves.fed {rules : Rules} {bytes : Bytes} {before after : Session} {request : Request}
    (serves : Serves rules before request after) (fed : Fed rules bytes before) :
    Fed rules after.outlook.data after ∧ bytes = request.wire ++ after.outlook.data := by
  rcases fed.rest serves.arrived with ⟨rest, split⟩
  refine ⟨?_, split⟩
  constructor
  · exact serves.held.closed.trans fed.isOpen
  · exact serves.held.willing fed.willing
  · exact fed.feasible.held serves.held
  · exact rest

theorem Serves.late {rules : Rules} {before after : Session} {request : Request}
    (serves : Serves rules before request after) {ending : Ending}
    (late : Late rules after ending) : Late rules before ending := by
  rcases late with ⟨fault, hinders, due⟩
  exact ⟨fault, .of_reset serves.held serves.reset hinders, due⟩

/-- A session that is fed some bytes does what the exchange says, unless a deadline ends it. -/
theorem follows_or_late {rules : Rules} {bytes : Bytes} {before : Session}
    (fed : Fed rules bytes before) :
    (∃ middle,
        dispatch rules before =
          (Exchange.of rules.registry before.connection.bodyLimit bytes).ending.finish middle ∧
        Follows (.of rules.registry before.connection.bodyLimit bytes) before middle) ∨
      ∃ ending middle, dispatch rules before = ending.finish middle ∧ Late rules before ending := by
  -- A served request is taken off the bytes and off the exchange alike, and `Fed` holds of the
  -- rest.
  rcases round_serves_or_endsAs fed with
    ⟨request, after, again, serves⟩ | ⟨middle, stops, follows⟩ | ⟨ending, middle, stops, late⟩
  · have paid := budget_of_round again
    rcases serves.fed fed with ⟨later, split⟩
    have exchange := Exchange.of_request serves.proper after.outlook.data
    rw [← split, serves.fine] at exchange
    rw [dispatch_of_again again, exchange]
    rcases follows_or_late later with ⟨middle, ends, follows⟩ | ⟨ending, middle, ends, late⟩
    · rw [serves.held.bodyLimit] at ends follows
      refine Or.inl ⟨middle, ends, ?_⟩
      constructor
      · rw [follows.invocations, serves.invocations]
        simp [Exchange.after]
      · rw [follows.sent, serves.sent]
        simp [Exchange.after]
      · exact follows.left
    · exact Or.inr ⟨ending, middle, ends, serves.late late⟩
  · exact Or.inl ⟨middle, dispatch_of_stop stops, follows⟩
  · exact Or.inr ⟨ending, middle, dispatch_of_stop stops, late⟩
termination_by before.budget

theorem patience_of_endless {rules : Rules}
    (endless : ∀ limit, rules.idleLimit = some limit → limit.isZero = true) :
    rules.patience = none := by
  cases limited : rules.idleLimit with
  | none => simp [Rules.patience, limited]
  | some limit => simp [Rules.patience, limited, Option.filter, endless limit limited]

/-- Some bytes arrive at a session without deadlines whose transport takes all writes, in any chunks
and with any interruptions in between. The session does what their exchange says, up to the point
where a handler of streams takes over. -/
theorem dispatch_follows_exchange {rules : Rules} {session : Session} {bytes : Bytes}
    (isOpen : session.connection.closed = false) (untimed : session.connection.deadline = none)
    (endless : ∀ limit, rules.idleLimit = some limit → limit.isZero = true)
    (willing : session.connection.transport.Willing)
    (delivery : Source.Delivers bytes session.connection.transport.incoming) :
    let exchange := Exchange.of rules.registry session.connection.bodyLimit bytes
    ∃ middle, dispatch rules session = exchange.ending.finish middle ∧
      middle.invocations = session.invocations ++ exchange.invocations ∧
      middle.sent = session.sent ++ exchange.written ∧
      middle.connection.transport.incoming.bytes = exchange.unread := by
  have patience := patience_of_endless endless
  have feasible : Feasible rules session.connection := by
    intro limit limited
    rw [patience] at limited
    cases limited
  have fed : Fed rules bytes session := ⟨isOpen, willing, feasible, delivery.outlook_eq⟩
  rcases follows_or_late fed with ⟨middle, ends, follows⟩ | ⟨_, _, _, late⟩
  · refine ⟨middle, ends, follows.invocations, follows.sent, ?_⟩
    have left := follows.left
    rw [outlook, Connection.outlook] at left
    rw [Source.bytes_eq_outlook, left]
    exact List.append_nil _
  · rcases late.timed with patient | limited
    · exact absurd patience patient
    · exact absurd untimed limited

/-- A request for a name that nobody serves comes after an interruption. Its body is left. -/
theorem unknown_endpoint_leaves_body :
    ∃ middle,
      dispatch ⟨.empty, none, none, false⟩ ⟨.bringing (.fault (.plain .interrupted) ::
          Source.ofBytes (Connection.frame "gone" [7])), [], []⟩ =
        .error (.failure (.invalidEndpoint "gone")) middle ∧
      middle.invocations = [] ∧ middle.sent = [] ∧
      middle.connection.transport.incoming.bytes = [7] := by
  let call : Call := ⟨"gone", .bytes [7], by decide⟩
  have carried : Header.carried "gone" = "gone" := rfl
  have header : Header.ofBytes call.frame = .forRequest "gone" 1 := by
    have whole := Connection.ofBytes_frame_append call []
    rwa [List.append_nil, Call.header, carried] at whole
  have kind : (Header.ofBytes call.frame).kind = some .request := by
    rw [header]
    rfl
  have enough : Header.width ≤ call.frame.length := by
    rw [call.length_frame]
    exact Nat.le_add_right _ _
  have unregistered : Registry.empty.request? (Header.ofBytes call.frame).endpoint = none := rfl
  have exchange : Exchange.of .empty none call.frame = .failing (.invalidEndpoint "gone") [7] := by
    rw [Exchange.of_unknown enough kind unregistered, header, Connection.drop_width_frame]
    rfl
  have delivery : Source.Delivers call.frame
      (.fault (.plain .interrupted) :: Source.ofBytes call.frame) :=
    .interruption rfl (Source.delivers_ofBytes _)
  have endless : ∀ limit, (none : Option Duration) = some limit → limit.isZero = true := by
    intro limit limited
    cases limited
  have outcome := @dispatch_follows_exchange ⟨.empty, none, none, false⟩ ⟨.bringing _, [], []⟩
    call.frame rfl rfl endless (Connection.willing_bringing _) delivery
  change let exchange := Exchange.of .empty none call.frame
    ∃ middle, dispatch _ _ = exchange.ending.finish middle ∧ _ = _ ++ exchange.invocations ∧
      _ = _ ++ exchange.written ∧ _ = exchange.unread at outcome
  rwa [exchange] at outcome

end Session

end Switchboard
