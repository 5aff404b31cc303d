import Switchboard.Proofs.Connection.Timeless
import Switchboard.Proofs.Session.Calls

/-!
# Idle limits that nobody reaches

A session that lets its peer idle for a limited time sets a deadline before every round. As long as
the deadlines exist, can be set and do not pass, the session does the same as one that would wait
for ever: the two sessions are run side by side, one round after the other, and stay alike up to the
point where they end or hand their connections over (`dispatch_agrees`). What comes after that point
depends on the handler of streams. If nothing it does depends on the time (`Unhurried`), the
sessions stay alike in it, too.

A deadline that does not exist is another matter. There are limits so long that no clock can show
their end, and with such a limit a session breaks off before it has read anything
(`run_breaks_off`).
-/

namespace Switchboard

/-- The same rules, but peers may idle for ever. -/
def Rules.endless (rules : Rules) : Rules :=
  { rules with idleLimit := none }

/-- The handler does the same with two connections that differ in nothing but the time, unless a
deadline passes. -/
def StreamHandler.Unhurried (handler : StreamHandler) : Prop :=
  ∀ header, (Connection.regardless fun _ => True).Mirrors (handler.run header) (handler.run header)

namespace Session

open Exchange (Ending)

variable {α : Type}

/-- The session without its deadline, its clock and its time limits. -/
def timeless (session : Session) : Session :=
  { session with connection := session.connection.timeless }

/-- A crash comes from a handler of requests that was invoked. -/
def Blamed (session : Session) : Halt → Prop
  | .failure _ => True
  | .crash reason => ∃ title header body answer,
      Invocation.request title header body answer ∈ session.invocations ∧
        answer.trouble = some (.crashed reason)

/-- Nothing but a handler breaks a session off, and only who is registered gets a connection. -/
def Justified (rules : Rules) (session : Session) : Ending → Prop
  | .over => True
  | .halted halt => Blamed session halt
  | .handedOver handler header => rules.registry.stream? header.endpoint = some handler

/-- The sessions differ in nothing but the time, and the second one has no deadline. -/
structure Alike (timed free : Session) : Prop where
  connection : Connection.Alike timed.connection free.connection
  invocations : timed.invocations = free.invocations
  events : timed.events = free.events

theorem Alike.timeless_eq {timed free : Session} (alike : Alike timed free) :
    timed.timeless = free.timeless := by
  rw [timeless, timeless, alike.connection.same, alike.invocations, alike.events]

theorem Alike.on {timed free : Session} (alike : Alike timed free) {left right : Connection}
    (connections : Connection.Alike left right) :
    Alike { timed with connection := left } { free with connection := right } :=
  ⟨connections, alike.invocations, alike.events⟩

theorem Alike.invoked {timed free : Session} (alike : Alike timed free) (invocation : Invocation) :
    Alike (timed.invoked timed.connection invocation)
      (free.invoked free.connection invocation) where
  connection := alike.connection
  invocations := congrArg (· ++ [invocation]) alike.invocations
  events := alike.events

theorem Alike.telling {timed free : Session} (alike : Alike timed free) (rules : Rules)
    (events : List Event) : Alike (timed.telling rules events) (free.telling rules events) := by
  unfold Session.telling
  split
  · exact ⟨alike.connection, alike.invocations, congrArg (· ++ events) alike.events⟩
  · exact alike

/-- Steps from sessions that are alike end in the same way, or the deadline has passed. -/
def regardless : Comparison Halt Session where
  alike := Alike
  fails halt timed free := Alike timed free ∧ Blamed timed halt
  cut halt after := halt = .failure (.io .pastDeadline) ∧ after.connection.Lapsed

/-! ## Steps -/

theorem mirrors_throw (error : Error) :
    regardless.Mirrors (throw (.failure error) : EStateM Halt Session α) (throw (.failure error)) :=
  fun _ _ alike => .error ⟨alike, trivial⟩

theorem mirrors_onConnection {action : EStateM Error Connection α}
    (mirrors : (Connection.regardless (· = .io .pastDeadline)).Mirrors action action) :
    regardless.Mirrors (onConnection action) (onConnection action) := by
  intro timed free alike
  have agree := mirrors alike.connection
  simp only [onConnection]
  generalize action timed.connection = left, action free.connection = right at agree ⊢
  cases agree with
  | ok connections => exact .ok (alike.on connections)
  | error connections => exact .error ⟨alike.on connections, trivial⟩
  | cut cut =>
      rcases cut with ⟨rfl, lapsed⟩
      exact .cut ⟨rfl, lapsed⟩

theorem mirrors_tell (rules : Rules) (event : Event) :
    regardless.Mirrors (tell rules event) (tell rules event) :=
  fun _ _ alike => .ok (alike.telling rules [event])

theorem mirrors_awaitHeader : regardless.Mirrors awaitHeader awaitHeader := by
  intro timed free alike
  have agree := Connection.matching_regardless.readHeader alike.connection
  simp only [awaitHeader]
  generalize Connection.readHeader timed.connection = left,
    Connection.readHeader free.connection = right at agree ⊢
  cases agree with
  | ok connections => exact .ok (alike.on connections)
  | error connections =>
      dsimp only
      split
      · exact .ok (alike.on connections)
      · exact .error ⟨alike.on connections, trivial⟩
  | cut cut =>
      rcases cut with ⟨rfl, lapsed⟩
      exact .cut ⟨rfl, lapsed⟩

theorem mirrors_invoke (handler : RequestHandler) (header : Header) (body : Bytes) :
    regardless.Mirrors (invoke handler header body) (invoke handler header body) := by
  intro timed free alike
  have alike := alike.invoked (.request handler.title header body (handler.answer header body))
  cases outcome : (handler.answer header body).trouble with
  | none =>
      rw [invoke_of_no_trouble outcome, invoke_of_no_trouble outcome]
      exact .ok alike
  | some trouble =>
      rw [invoke_of_trouble outcome, invoke_of_trouble outcome]
      refine .error ⟨alike, ?_⟩
      cases trouble with
      | failed reason => trivial
      | crashed reason =>
          exact ⟨handler.title, header, body, handler.answer header body,
            List.mem_append_right _ List.mem_cons_self, outcome⟩

theorem mirrors_handleRequest (rules : Rules) (header : Header) :
    regardless.Mirrors (handleRequest rules header) (handleRequest rules header) := by
  unfold handleRequest
  cases rules.registry.request? header.endpoint with
  | none => exact mirrors_throw _
  | some handler =>
      refine (mirrors_onConnection (Connection.matching_regardless.readBody header)).bind
        fun body => ?_
      refine (mirrors_invoke handler header body).bind fun output => ?_
      refine (mirrors_onConnection (Connection.matching_regardless.writeMessage _)).bind fun _ => ?_
      exact mirrors_tell rules _

/-! ## Rounds -/

/-- Two rounds that are over and have ended in the same way, unless the deadline has passed. -/
inductive Paired (rules : Rules) :
    EStateM.Result Halt Session Next → EStateM.Result Halt Session Next → Prop
  | again {left right : Session} (alike : Alike left right) :
      Paired rules (.ok .again left) (.ok .again right)
  | stop {ending : Ending} {left right : Session} (alike : Alike left right)
      (justified : Justified rules left ending) :
      Paired rules (ending.stop left) (ending.stop right)
  | cut {after : Session} {other : EStateM.Result Halt Session Next}
      (lapsed : after.connection.Lapsed) :
      Paired rules (.error (.failure (.io .pastDeadline)) after) other

variable {rules : Rules}

theorem paired_of_halt {halt : Halt} {left right : Session} (alike : Alike left right)
    (blamed : Blamed left halt) : Paired rules (.error halt left) (.error halt right) := by
  have stop : Paired rules ((Ending.halted halt).stop left) ((Ending.halted halt).stop right) :=
    .stop alike blamed
  exact stop

theorem paired_over {left right : Session} (alike : Alike left right) :
    Paired rules (.ok .over left) (.ok .over right) := by
  have stop : Paired rules (Ending.over.stop left) (Ending.over.stop right) := .stop alike trivial
  exact stop

/-- A step that goes on in the same way in both sessions makes no difference to the round. -/
theorem paired_bind {first : EStateM Halt Session α} (mirrors : regardless.Mirrors first first)
    {next other : α → EStateM Halt Session Next}
    (late : ∀ value left right, Alike left right →
      Paired rules (next value left) (other value right))
    {timed free : Session} (alike : Alike timed free) :
    Paired rules ((first >>= next) timed) ((first >>= other) free) := by
  have agree := mirrors alike
  simp only [Bind.bind, EStateM.bind]
  generalize first timed = left, first free = right at agree ⊢
  cases agree with
  | ok alike => exact late _ _ _ alike
  | error fails => exact paired_of_halt fails.1 fails.2
  | cut cut =>
      rcases cut with ⟨rfl, lapsed⟩
      exact .cut lapsed

theorem paired_route (rules : Rules) (header : Header) {timed free : Session}
    (alike : Alike timed free) :
    Paired rules (route rules header timed) (route rules header free) := by
  unfold route
  cases header.kind with
  | none => exact paired_of_halt alike trivial
  | some kind =>
      cases kind with
      | request =>
          exact paired_bind (mirrors_handleRequest rules header)
            (fun _ _ _ alike => .again alike) alike
      | stream =>
          dsimp only
          cases known : rules.registry.stream? header.endpoint with
          | none =>
              simp only [handleStream, known]
              exact paired_of_halt alike trivial
          | some handler =>
              rw [over_of_finish (handleStream_of_known known timed),
                over_of_finish (handleStream_of_known known free)]
              exact .stop ((alike.invoked _).telling rules _) known

theorem paired_awaited (rules : Rules) {timed free : Session} (alike : Alike timed free) :
    Paired rules
      ((awaitHeader >>= fun awaited =>
        match awaited with
        | none => pure .over
        | some header => route rules header) timed)
      ((awaitHeader >>= fun awaited =>
        match awaited with
        | none => pure .over
        | some header => route rules header) free) := by
  refine paired_bind mirrors_awaitHeader ?_ alike
  intro awaited left right alike
  cases awaited with
  | none => exact paired_over alike
  | some header => exact paired_route rules header alike

theorem Alike.ticked {timed free : Session} (alike : Alike timed free) :
    Alike timed.ticked free where
  connection :=
    ⟨alike.connection.same, alike.connection.obliging, alike.connection.obligingFree,
      alike.connection.undated⟩
  invocations := alike.invocations
  events := alike.events

/-- A round with a deadline that exists does the same as a round without one, unless the deadline
passes. -/
theorem paired_round {timed free : Session} (alike : Alike timed free)
    (feasible : Feasible rules timed.connection) :
    Paired rules (round rules timed) (round rules.endless free) := by
  have idle : armIdle rules.endless free = .ok () free := rfl
  cases patience : rules.patience with
  | none =>
      rw [round, bind_of_ok (armIdle_of_none patience timed), round, bind_of_ok idle]
      exact paired_awaited rules alike
  | some limit =>
      rcases armIdle_of_some patience timed with ⟨deadline, later, set⟩ | ⟨never, _⟩
      · -- On a closed connection the deadline is refused, and without one the header is: the error
        -- is the same.
        cases closed : timed.connection.closed with
        | true =>
            have closedTicked : timed.ticked.connection.closed = true := closed
            have refused := onConnection_of_error
              (Connection.setDeadline_of_closed closedTicked deadline)
            have closedFree := alike.connection.closed.symm.trans closed
            rw [round, bind_of_error (set.trans refused),
              round_of_headerError idle (Connection.readHeader_of_closed closedFree)]
            exact paired_of_halt alike.ticked trivial
        | false =>
            have openTicked : timed.ticked.connection.closed = false := closed
            have done := onConnection_of_ok (Connection.setDeadline_of_open openTicked deadline)
            rw [round, bind_of_ok (set.trans done), round, bind_of_ok idle]
            have dated := alike.ticked.connection
            exact paired_awaited rules
              (alike.on ⟨dated.same, dated.obliging, dated.obligingFree, dated.undated⟩)
      · have attainable := feasible limit patience _ List.mem_cons_self
        rw [never] at attainable
        cases attainable

/-! ## The whole session -/

theorem stop_ne_again (ending : Ending) (session after : Session) :
    ending.stop session ≠ .ok .again after := by
  unfold Ending.stop
  split <;> simp

theorem feasible_of_again {before after : Session}
    (again : round rules before = .ok .again after) (feasible : Feasible rules before.connection) :
    Feasible rules after.connection := by
  rcases round_serves_or_ends rules before with
    ⟨request, other, same, serves⟩ | ⟨account, middle, same, _⟩
  · rw [again] at same
    cases same
    exact feasible.held serves.held
  · rw [again] at same
    exact absurd same.symm (stop_ne_again _ _ _)

/-- Sessions that are alike come to the same ending and are alike there, unless a deadline
passes. -/
theorem dispatch_agrees {timed free : Session} (alike : Alike timed free)
    (feasible : Feasible rules timed.connection) :
    (∃ (ending : Ending) (left right : Session), dispatch rules timed = ending.finish left ∧
        dispatch rules.endless free = ending.finish right ∧ Alike left right ∧
        Justified rules left ending) ∨
      ∃ after, dispatch rules timed = .error (.failure (.io .pastDeadline)) after ∧
        after.connection.Lapsed := by
  have paired := paired_round alike feasible
  generalize first : round rules timed = left, second : round rules.endless free = right at paired
  cases paired with
  | again alike =>
      -- The recursion is on the budget, of which another round has used something.
      have paid := budget_of_round first
      rw [dispatch_of_again first, dispatch_of_again second]
      exact dispatch_agrees alike (feasible_of_again first feasible)
  | stop alike justified =>
      exact Or.inl ⟨_, _, _, dispatch_of_stop first, dispatch_of_stop second, alike, justified⟩
  | @cut after _ lapsed =>
      refine Or.inr ⟨after, ?_, lapsed⟩
      rw [dispatch_eq, first]
termination_by timed.budget

/-! ## The end -/

theorem alike_starting {connection : Connection} (undated : connection.deadline = none)
    (obliging : connection.transport.Obliging) (rules : Rules) :
    Alike (starting rules connection) (starting rules connection) := by
  have same := connection_starting rules connection
  refine ⟨⟨rfl, ?_, ?_, ?_⟩, rfl, rfl⟩
  · rw [same]
    exact obliging
  · rw [same]
    exact obliging
  · rw [same]
    exact undated

/-- An ending makes the same of both sessions, if a handler of streams that takes over does. -/
theorem finish_agrees {ending : Ending} {left right : Session} (alike : Alike left right)
    (punctual : ∀ handler header, ending = .handedOver handler header →
      handler.Unhurried ∧ ¬(settled (ending.finish left)).connection.Lapsed) :
    mapState timeless (ending.finish left) = mapState timeless (ending.finish right) := by
  rcases ending with _ | halt | ⟨handler, header⟩
  · exact congrArg (EStateM.Result.ok ()) alike.timeless_eq
  · exact congrArg (EStateM.Result.error halt) alike.timeless_eq
  · rcases punctual handler header rfl with ⟨unhurried, unlapsed⟩
    have agree := unhurried header alike.connection
    simp only [Ending.finish, handOver] at unlapsed ⊢
    generalize handler.run header left.connection = first,
      handler.run header right.connection = second at agree unlapsed ⊢
    cases agree with
    | ok connections => exact congrArg (EStateM.Result.ok ()) (alike.on connections).timeless_eq
    | error connections =>
        exact congrArg (EStateM.Result.error _) (alike.on connections).timeless_eq
    | cut cut => exact absurd cut.2 unlapsed

theorem conclude_timeless (rules : Rules) (peer : String)
    (result : EStateM.Result Halt Session Unit) :
    conclude rules peer (mapState timeless result) =
      ⟨(conclude rules peer result).session.timeless, (conclude rules peer result).crash⟩ := by
  rcases result with ⟨_, session⟩ | ⟨_ | _, session⟩ <;>
    cases logs : rules.log <;>
      simp [conclude, mapState, telling, released, timeless, logs, Connection.timeless,
        Connection.release, Transport.release, Transport.enter, Transport.timeless,
        Transport.Call.ofDeadline]

/-- A session with an idle limit does what it would do without one, as long as its deadlines exist,
can be set and do not pass. It comes to the same ending, with the same handlers invoked and the same
reads and writes made of its transport, and breaks off only where a handler does. If it hands its
connection over to a handler to which the time makes no difference, and no deadline passes there,
then everything after that is the same, too. -/
theorem idle_limit_changes_nothing {connection : Connection}
    (undated : connection.deadline = none) (obliging : connection.transport.Obliging)
    (feasible : Feasible rules connection)
    (punctual : ∀ after, dispatch rules (starting rules connection) =
      .error (.failure (.io .pastDeadline)) after → ¬after.connection.Lapsed) :
    ∃ (ending : Ending) (timed free : Session),
      dispatch rules (starting rules connection) = ending.finish timed ∧
      dispatch rules.endless (starting rules.endless connection) = ending.finish free ∧
      timed.timeless = free.timeless ∧ Justified rules timed ending ∧
      ((∀ handler header, ending = .handedOver handler header → handler.Unhurried ∧
          ¬(settled (dispatch rules (starting rules connection))).connection.Lapsed) →
        mapState timeless (dispatch rules (starting rules connection)) =
            mapState timeless (dispatch rules.endless (starting rules.endless connection)) ∧
          (run rules connection).session.timeless =
            (run rules.endless connection).session.timeless ∧
          (run rules connection).crash = (run rules.endless connection).crash) := by
  have feasibleStart : Feasible rules (starting rules connection).connection := by
    rw [connection_starting]
    exact feasible
  rcases dispatch_agrees (alike_starting undated obliging rules) feasibleStart with
    ⟨ending, timed, free, first, second, alike, justified⟩ | ⟨after, failed, lapsed⟩
  · refine ⟨ending, timed, free, first, second, alike.timeless_eq, justified, ?_⟩
    intro unhurried
    rw [first] at unhurried
    have same := finish_agrees alike unhurried
    rw [← first, ← second] at same
    have concluded := congrArg (conclude rules connection.transport.peer) same
    rw [conclude_timeless, conclude_timeless, Report.mk.injEq] at concluded
    exact ⟨same, concluded⟩
  · exact absurd lapsed (punctual after failed)

theorem dispatch_breaks_off {limit : Duration} (patience : rules.patience = some limit)
    {connection : Connection} (never : connection.transport.clock.now.later? limit = none) :
    dispatch rules (starting rules connection) =
      .error (.crash beyondTime) (starting rules connection).ticked := by
  have clock : (starting rules connection).connection.transport.clock =
      connection.transport.clock := by
    rw [connection_starting]
    rfl
  rcases armIdle_of_some patience (starting rules connection) with
    ⟨deadline, later, _⟩ | ⟨_, crashed⟩
  · rw [clock, never] at later
    cases later
  · rw [dispatch_eq, round, bind_of_error crashed]

/-- A limit whose end no clock can show ends the session before anything is read and before anybody
is told. -/
theorem run_breaks_off {limit : Duration} (patience : rules.patience = some limit)
    {connection : Connection} (never : connection.transport.clock.now.later? limit = none) :
    run rules connection = ⟨released (starting rules connection).ticked, some beyondTime⟩ :=
  congrArg (conclude rules connection.transport.peer) (dispatch_breaks_off patience never)

/-! ## One call under different limits -/

/-- Rules under which everything that is called "echo" is echoed. -/
def echoing (limit : Option Duration) : Rules :=
  ⟨.addRequest .empty "echo" ⟨"echo", fun _ body => modify (· ++ body)⟩, limit, none, false⟩

def calling : Connection :=
  .bringing (.ofBytes (Connection.frame "echo" [104, 105]))

theorem exchange_calling :
    Exchange.of (echoing none).registry none (Connection.frame "echo" [104, 105]) =
      ⟨[.request "echo" (.forRequest "echo" 2) [104, 105] ⟨[104, 105], none⟩],
        Connection.frame "echo" [104, 105], [], .over⟩ := by
  let served : Served :=
    ⟨⟨"echo", .bytes [104, 105], by decide⟩, ⟨"echo", fun _ body => modify (· ++ body)⟩⟩
  have carried : Header.carried "echo" = "echo" := rfl
  have known : (echoing none).registry.request? (Header.carried "echo") = some served.handler := by
    rw [carried]
    rfl
  have unlimited : ∀ bound, (none : Option UInt64) = some bound →
      UInt64.ofNat served.call.body.length ≤ bound := by
    intro bound limited
    cases limited
  have header : served.call.header = .forRequest "echo" 2 := by
    change Header.forRequest (Header.carried "echo") _ = _
    rw [carried]
    rfl
  have answer : served.answer = ⟨[104, 105], none⟩ := rfl
  have invocation : served.request.invocation =
      .request "echo" (.forRequest "echo" 2) [104, 105] ⟨[104, 105], none⟩ := by
    rw [served.invocation_request, Served.invocation, answer, header]
    rfl
  have response : served.request.response = Connection.frame "echo" [104, 105] := by
    rw [served.response_request, answer]
    change Connection.frame (Header.carried "echo") _ = _
    rw [carried]
  have fine : served.request.answer.trouble = none := by rw [served.answer_request, answer]
  have proper := @Served.proper_request served _ none known unlimited
  have exchange := Exchange.of_request proper []
  have last : Exchange.of (echoing none).registry none [] = ⟨[], [], [], .over⟩ :=
    Exchange.of_short (by decide)
  rw [fine, invocation, response, served.wire_request] at exchange
  simp only [last, Exchange.after, List.append_nil] at exchange
  exact exchange

theorem answered_echo {rules : Rules} (registry : rules.registry = (echoing none).registry)
    (unlimited : rules.bodyLimit = none)
    (feasible : ∀ bound, rules.patience = some bound → ((default : Instant).later? bound).isSome) :
    ∃ middle, dispatch rules (starting rules calling) = .ok () middle ∧
      middle.invocations =
        [.request "echo" (.forRequest "echo" 2) [104, 105] ⟨[104, 105], none⟩] := by
  have timely : Timely rules calling := timely_bringing feasible _
  have delivery : Source.Delivers (Connection.frame "echo" [104, 105]) calling.transport.incoming :=
    Source.delivers_ofBytes _
  have fed : Fed rules (Connection.frame "echo" [104, 105]) (starting rules calling) :=
    fed_starting rfl (Connection.willing_bringing _) timely delivery
  have start : (starting rules calling).connection = calling := by
    rw [connection_starting, Connection.withBodyLimit, unlimited]
    rfl
  rcases follows_or_late fed with ⟨middle, ends, follows⟩ | ⟨ending, middle, ends, late⟩
  · rw [start, registry] at ends follows
    have same : Exchange.of (echoing none).registry calling.bodyLimit _ = _ := exchange_calling
    rw [same] at ends follows
    have nobody : (starting rules calling).invocations = [] := by simp [starting, opening]
    have invoked := follows.invocations
    rw [nobody] at invoked
    exact ⟨middle, ends, invoked⟩
  · exact absurd late (timely.not_late ends)

theorem answered_calling {limit : Option Duration}
    (feasible : ∀ bound, (echoing limit).patience = some bound →
      ((default : Instant).later? bound).isSome) :
    ∃ middle, dispatch (echoing limit) (starting (echoing limit) calling) = .ok () middle ∧
      middle.invocations = [.request "echo" (.forRequest "echo" 2) [104, 105] ⟨[104, 105], none⟩] :=
  answered_echo rfl rfl feasible

/-- A limit of one second, which the clock does not reach, makes no difference to the call. -/
theorem call_within_limit :
    let rules := echoing (some ⟨1, 0, by decide⟩)
    calling.deadline = none ∧ calling.transport.Obliging ∧ Feasible rules calling ∧
      (∀ after, dispatch rules (starting rules calling) =
        .error (.failure (.io .pastDeadline)) after → ¬after.connection.Lapsed) ∧
      mapState timeless (dispatch rules (starting rules calling)) =
        mapState timeless (dispatch rules.endless (starting rules.endless calling)) ∧
      (run rules calling).session.timeless = (run rules.endless calling).session.timeless ∧
      (run rules calling).crash = (run rules.endless calling).crash := by
  intro rules
  have brief : ∀ bound, rules.patience = some bound →
      ((default : Instant).later? bound).isSome := by
    intro bound limited
    cases limited
    decide
  have feasible : Feasible rules calling := (timely_bringing brief _).feasible
  have obliging : calling.transport.Obliging := by
    intro outcome pending
    cases pending
  rcases answered_calling brief with ⟨middle, done, _⟩
  have punctual : ∀ after, dispatch rules (starting rules calling) =
      .error (.failure (.io .pastDeadline)) after → ¬after.connection.Lapsed := by
    intro after failed
    rw [done] at failed
    cases failed
  rcases idle_limit_changes_nothing rfl obliging feasible punctual with
    ⟨ending, timed, free, _, _, _, justified, same⟩
  refine ⟨rfl, obliging, feasible, punctual, same ?_⟩
  rintro handler header rfl
  cases justified

/-- The longest limit of all keeps the call from being read, although nothing else is in its way. -/
theorem call_under_longest_limit :
    let rules := echoing (some .longest)
    calling.deadline = none ∧ calling.transport.Obliging ∧
      (∀ after, dispatch rules (starting rules calling) ≠
        .error (.failure (.io .pastDeadline)) after) ∧
      (run rules calling).crash = some beyondTime ∧ (run rules calling).session.invocations = [] ∧
      (run rules.endless calling).crash = none ∧
      (run rules.endless calling).session.invocations =
        [.request "echo" (.forRequest "echo" 2) [104, 105] ⟨[104, 105], none⟩] := by
  intro rules
  have patience : rules.patience = some .longest := rfl
  have never : calling.transport.clock.now.later? .longest = none := by decide
  have broken : run rules calling = _ := run_breaks_off patience never
  have endless : ∀ bound, (echoing none).patience = some bound →
      ((default : Instant).later? bound).isSome := by
    intro bound limited
    cases limited
  rcases answered_calling endless with ⟨middle, done, invocations⟩
  have served : run rules.endless calling = conclude (echoing none) "" (.ok () middle) :=
    congrArg (conclude (echoing none) "") done
  refine ⟨rfl, ?_, ?_, ?_, ?_, ?_, ?_⟩
  · intro outcome pending
    cases pending
  · intro after failed
    rw [dispatch_breaks_off patience never] at failed
    cases failed
  · rw [broken]
  · rw [broken]
    rfl
  · rw [served]
    rfl
  · rw [served]
    exact invocations

end Session

end Switchboard
