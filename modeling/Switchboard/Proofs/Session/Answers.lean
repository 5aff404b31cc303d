import Switchboard.Proofs.Session.Rounds

/-!
# Only what was answered is sent

Whatever the transport does, and whatever the handlers do, a session sends the answers of the
requests that it has served, in the order in which they came, and after them at most a strict
beginning of one more answer. Such a beginning means that the session has ended with the fault that
kept the rest from being sent. Nothing is sent for a request that has no handler or whose body did
not come, nor for one whose handler went wrong.

`Account` is what a session can say about itself when it ends or hands its connection over. A round
either serves one more request (`Serves`) or closes the account, and so there is one for every
session.
-/

namespace Switchboard

/-- The handlers of streams that an ending invokes. -/
def Exchange.Ending.invocations : Exchange.Ending → List Invocation
  | .handedOver handler header => [.stream handler.title header]
  | _ => []

/-- The event that tells about a handler, if it was invoked and did what it was asked for. -/
def Invocation.event : Invocation → Event
  | .request _ header body answer => .served header.endpoint body.length answer.output.length
  | .stream _ header => .handedOver header.endpoint

namespace Session

open Connection (Held)
open Exchange (Ending)
open Source (Outlook)

/-- What became of the last request whose handler was invoked, if its answer was not sent as a
whole: either the handler went wrong and nothing was sent, or a strict beginning of the answer was,
and then there was a fault. -/
inductive Unfinished : Option Request → Bytes → Ending → Prop
  | none {ending : Ending} : Unfinished none [] ending
  | troubled {request : Request} {trouble : Trouble}
      (wrong : request.answer.trouble = some trouble) :
      Unfinished (some request) [] (.halted (.ofTrouble trouble))
  | unsent {request : Request} {fault : Fault} {count : Nat} (fine : request.answer.trouble = none)
      (short : count < request.response.length) :
      Unfinished (some request) (request.response.take count) (.halted (.failure (.io fault)))

/-- What a session did until it ended or handed its connection over: the requests whose answers were
sent, the request after them whose handler was invoked, if there was one, the bytes of its answer
that were sent, and how the session ended. -/
structure Account where
  answered : List Request
  last : Option Request
  part : Bytes
  ending : Ending

namespace Account

/-- All requests whose handlers were invoked. -/
def requests (account : Account) : List Request :=
  account.answered ++ account.last.toList

/-- The account is true of a session that began in one state and got as far as another one. The
requests came one behind the other, as their headers say; their handlers were invoked once each, and
so was a handler of streams that took over; nothing was sent but the answers and a part of the last
one. -/
structure Holds (account : Account) (rules : Rules) (before middle : Session) : Prop where
  proper : ∀ request ∈ account.requests,
    request.Proper rules.registry before.connection.bodyLimit
  arrived : ∃ rest, before.outlook.data = account.requests.flatMap Request.wire ++ rest
  invocations : middle.invocations = before.invocations ++
    account.requests.map Request.invocation ++ account.ending.invocations
  sent : middle.sent = before.sent ++ account.answered.flatMap Request.response ++ account.part
  fine : ∀ request ∈ account.answered, request.answer.trouble = none
  unfinished : Unfinished account.last account.part account.ending

end Account

/-- A round served a request: what it took, whom it asked and what it sent. -/
structure Serves (rules : Rules) (before : Session) (request : Request) (after : Session) :
    Prop where
  proper : request.Proper rules.registry before.connection.bodyLimit
  fine : request.answer.trouble = none
  arrived : before.outlook = after.outlook.prepend request.wire
  invocations : after.invocations = before.invocations ++ [request.invocation]
  sent : after.sent = before.sent ++ request.response
  held : Held before.connection after.connection
  reset : Reset rules before.connection after.connection

theorem Arrived.outlook_eq {rules : Rules} {before : Session} {connection : Connection}
    (arrived : Arrived rules before connection) :
    before.outlook = connection.outlook.prepend before.head := by
  rw [arrived.left]
  exact (before.outlook.prepend_take_drop _).symm

theorem Reached.outlook_eq {rules : Rules} {head : Bytes} {before : Session} {request : Request}
    {connection : Connection} (reached : Reached rules head before request connection) :
    before.outlook = connection.outlook.prepend request.body := by
  rw [reached.left, reached.body]
  exact (before.outlook.prepend_take_drop _).symm

/-- A request that was reached after its header had arrived was read from the front of the data. -/
theorem Reached.prepend_wire {rules : Rules} {before : Session} {middle after : Connection}
    {request : Request} (arrived : Arrived rules before middle)
    (reached : Reached rules before.head { before with connection := middle } request after) :
    before.outlook = after.outlook.prepend request.wire := by
  have body : middle.outlook = after.outlook.prepend request.body := reached.outlook_eq
  rw [arrived.outlook_eq, body, Outlook.prepend_prepend, Request.wire, reached.head]

theorem Reached.proper {rules : Rules} {before : Session} {middle after : Connection}
    {request : Request} (arrived : Arrived rules before middle)
    (kind : (Header.ofBytes before.head).kind = some .request)
    (reached : Reached rules before.head { before with connection := middle } request after) :
    request.Proper rules.registry before.connection.bodyLimit where
  width := by
    rw [reached.head, Session.head, List.length_take]
    exact Nat.min_eq_left arrived.enough
  kind := by rw [Request.header, reached.head, kind]
  registered := reached.known
  length := by
    rw [reached.body, List.length_take]
    exact Nat.min_eq_left reached.enough
  within := by
    intro limit limited
    exact reached.within limit (arrived.ready.bodyLimit.trans limited)

/-- A session ends in a round and has an account of it. -/
def Ends (rules : Rules) (before : Session) (result : EStateM.Result Halt Session Next) : Prop :=
  ∃ (account : Account) (middle : Session), result = account.ending.stop middle ∧
    account.Holds rules before middle

/-- The account of a session that ends in a round. Nothing is answered in this round, and the only
thing that is told is that the connection is handed over. -/
structure Closes (rules : Rules) (before : Session) (account : Account) (middle : Session) :
    Prop where
  answered : account.answered = []
  holds : account.Holds rules before middle
  told : rules.log = true →
    middle.events = before.events ++ account.ending.invocations.map Invocation.event

/-- A session that ends without having invoked a handler or sent anything has an empty account. -/
theorem closes_silently {rules : Rules} {before : Session} {connection : Connection}
    (silent : connection.transport.sent = before.sent) {ending : Ending}
    (streamless : ending.invocations = []) :
    Closes rules before ⟨[], none, [], ending⟩ { before with connection } := by
  refine ⟨rfl, ?_, fun _ => ?_⟩
  · constructor
    · simp [Account.requests]
    · simp [Account.requests]
    · simp [Account.requests, streamless]
    · simpa [sent] using silent
    · simp
    · exact .none
  · simp [streamless]

theorem closes_halted {rules : Rules} {before : Session} {connection : Connection}
    (silent : connection.transport.sent = before.sent) (halt : Halt) :
    Closes rules before ⟨[], none, [], .halted halt⟩ { before with connection } := by
  have streamless : (Ending.halted halt).invocations = [] := rfl
  exact closes_silently silent streamless

theorem invocations_ofHeaderError (error : Error) :
    (Ending.ofHeaderError error).invocations = [] := by
  unfold Ending.ofHeaderError
  split <;> rfl

/-- A session that hands its connection over has invoked a handler of streams and sent nothing. -/
theorem closes_handedOver {rules : Rules} {before : Session} {connection : Connection}
    (silent : connection.transport.sent = before.sent) (handler : StreamHandler) (header : Header) :
    Closes rules before ⟨[], none, [], .handedOver handler header⟩
      ((before.invoked connection (.stream handler.title header)).telling rules
        [.handedOver header.endpoint]) := by
  refine ⟨rfl, ?_, fun logs => ?_⟩
  · constructor
    · simp [Account.requests]
    · simp [Account.requests]
    · simp [Account.requests, Ending.invocations, invoked]
    · simpa [sent, invoked] using silent
    · simp
    · exact .none
  · simp [telling, logs, invoked, Ending.invocations, Invocation.event]

/-- A request whose answer was not sent as a whole is the last one in the account. -/
theorem closes_unfinished {rules : Rules} {before : Session} {middle after : Connection}
    {request : Request} {part : Bytes} {halt : Halt} (arrived : Arrived rules before middle)
    (kind : (Header.ofBytes before.head).kind = some .request)
    (reached : Reached rules before.head { before with connection := middle } request after)
    (sent : after.transport.sent = before.sent ++ part)
    (unfinished : Unfinished (some request) part (.halted halt)) :
    Closes rules before ⟨[], some request, part, .halted halt⟩
      (before.invoked after request.invocation) := by
  refine ⟨rfl, ?_, fun _ => ?_⟩
  · constructor
    · simpa [Account.requests] using reached.proper arrived kind
    · refine ⟨after.outlook.data, ?_⟩
      rw [reached.prepend_wire arrived]
      simp [Account.requests]
    · simp [Account.requests, Ending.invocations, invoked]
    · simpa [Session.sent, invoked] using sent
    · simp
    · exact unfinished
  · simp [Ending.invocations, invoked]

/-- A request that cannot be served ends the session. -/
theorem closes_of_handled {rules : Rules} {before after : Session} {middle : Connection}
    {halt : Halt} (arrived : Arrived rules before middle)
    (kind : (Header.ofBytes before.head).kind = some .request)
    (handled : Handled rules before.head { before with connection := middle } (.error halt after)) :
    ∃ last part, Closes rules before ⟨[], last, part, .halted halt⟩ after := by
  have silent := arrived.ready.sent
  have same : Session.sent { before with connection := middle } = before.sent := silent
  cases handled with
  | unknown unregistered => exact ⟨none, [], closes_halted silent _⟩
  | oversized known limited long => exact ⟨none, [], closes_halted silent _⟩
  | missing known within short kept left =>
      exact ⟨none, [], closes_halted (kept.sent.trans silent) _⟩
  | refused refuses kept => exact ⟨none, [], closes_halted (kept.sent.trans silent) _⟩
  | troubled reached wrong quiet =>
      refine ⟨some _, [], closes_unfinished arrived kind reached ?_ (.troubled wrong)⟩
      rw [quiet, same, List.append_nil]
  | unsent reached fine short part refuses =>
      rw [same] at part
      exact ⟨some _, _, closes_unfinished arrived kind reached part (.unsent fine short)⟩

/-- A request that can be served is. -/
theorem serves_of_handled {rules : Rules} {before after : Session} {middle : Connection}
    (arrived : Arrived rules before middle)
    (kind : (Header.ofBytes before.head).kind = some .request)
    (handled : Handled rules before.head { before with connection := middle } (.ok () after)) :
    ∃ request, Serves rules before request after := by
  have same := arrived.ready.sent
  cases handled with
  | @served request connection reached fine whole =>
      refine ⟨request, ?_⟩
      constructor
      · exact reached.proper arrived kind
      · exact fine
      · simpa [outlook, invoked] using reached.prepend_wire arrived
      · simp [invoked]
      · simpa [sent, invoked, same] using whole
      · simpa [invoked] using arrived.ready.toHeld.trans reached.kept.toHeld
      · simpa [invoked] using arrived.ready.reset.trans_kept reached.kept

/-- An answered request is told. -/
theorem told_of_handled {rules : Rules} {head : Bytes} {before after : Session}
    {middle : Connection} {request : Request} (logs : rules.log = true)
    (handled : Handled rules head { before with connection := middle } (.ok () after))
    (invocations : after.invocations = before.invocations ++ [request.invocation]) :
    after.events = before.events ++ [request.event] := by
  cases handled with
  | @served other connection reached fine whole =>
      have same : other.invocation = request.invocation := by
        simpa [invoked] using invocations
      have told : other.event = request.event := congrArg Invocation.event same
      simp [telling, logs, invoked, told]

/-- A round serves a request and tells about it, or the session ends in it. -/
theorem round_serves_or_closes (rules : Rules) (before : Session) :
    (∃ request after, round rules before = .ok .again after ∧ Serves rules before request after ∧
        (rules.log = true → after.events = before.events ++ [request.event])) ∨
      ∃ account middle, round rules before = account.ending.stop middle ∧
        Closes rules before account middle := by
  have possible := rounded rules before
  generalize round rules before = result at possible
  cases possible with
  | barred ready why => exact Or.inr ⟨_, _, rfl, closes_halted ready.sent _⟩
  | short ready short left =>
      exact Or.inr ⟨_, _, rfl, closes_silently ready.sent (invocations_ofHeaderError _)⟩
  | refused ready hinders =>
      exact Or.inr ⟨_, _, rfl, closes_silently ready.sent (invocations_ofHeaderError _)⟩
  | untyped arrived kind => exact Or.inr ⟨_, _, rfl, closes_halted arrived.ready.sent _⟩
  | unopened arrived kind unregistered =>
      exact Or.inr ⟨_, _, rfl, closes_halted arrived.ready.sent _⟩
  | opened arrived kind known => exact Or.inr ⟨_, _, rfl, closes_handedOver arrived.ready.sent _ _⟩
  | unserved arrived kind handled =>
      rcases closes_of_handled arrived kind handled with ⟨last, part, closes⟩
      exact Or.inr ⟨_, _, rfl, closes⟩
  | served arrived kind handled =>
      rcases serves_of_handled arrived kind handled with ⟨request, serves⟩
      exact Or.inl ⟨request, _, rfl, serves, fun logs =>
        told_of_handled logs handled serves.invocations⟩

theorem round_serves_or_ends (rules : Rules) (before : Session) :
    (∃ request after, round rules before = .ok .again after ∧
        Serves rules before request after) ∨ Ends rules before (round rules before) := by
  rcases round_serves_or_closes rules before with
    ⟨request, after, again, serves, _⟩ | ⟨account, middle, stops, closes⟩
  · exact Or.inl ⟨request, after, again, serves⟩
  · exact Or.inr ⟨account, middle, stops, closes.holds⟩

/-- What is true of the rest of a session becomes true of all of it when a request is put in
front. -/
theorem Serves.holds_cons {rules : Rules} {before after middle : Session} {request : Request}
    (serves : Serves rules before request after) {account : Account}
    (holds : account.Holds rules after middle) :
    { account with answered := request :: account.answered }.Holds rules before middle where
  proper := by
    intro other mem
    rcases List.mem_cons.mp mem with rfl | later
    · exact serves.proper
    · have proper := holds.proper other later
      rwa [serves.held.bodyLimit] at proper
  arrived := by
    rcases holds.arrived with ⟨rest, data⟩
    refine ⟨rest, ?_⟩
    rw [serves.arrived, Outlook.prepend_data, data]
    simp [Account.requests]
  invocations := by
    rw [holds.invocations, serves.invocations]
    simp [Account.requests]
  sent := by
    rw [holds.sent, serves.sent]
    simp
  fine := by
    intro other mem
    rcases List.mem_cons.mp mem with rfl | later
    · exact serves.fine
    · exact holds.fine other later
  unfinished := holds.unfinished

/-- Whatever arrives, whatever the transport does and whatever the handlers are, there is an account
of what a session did until it ended or handed its connection over. -/
theorem only_answers_are_sent (rules : Rules) (before : Session) :
    ∃ (account : Account) (middle : Session),
      dispatch rules before = account.ending.finish middle ∧ account.Holds rules before middle := by
  -- The account of the rest is extended at its front: what a round sends comes before what follows
  -- it.
  rcases round_serves_or_ends rules before with
    ⟨request, after, again, serves⟩ | ⟨account, middle, stops, holds⟩
  · have paid := budget_of_round again
    rcases only_answers_are_sent rules after with ⟨account, middle, ends, holds⟩
    refine ⟨_, middle, ?_, serves.holds_cons holds⟩
    rw [dispatch_of_again again, ends]
  · exact ⟨account, middle, dispatch_of_stop stops, holds⟩
termination_by before.budget

end Session

end Switchboard
