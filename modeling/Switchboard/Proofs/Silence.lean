import Switchboard.Proofs.AcceptQueue.Turns
import Switchboard.Proofs.Comparison
import Switchboard.Proofs.Session.Rounds

/-!
# Nothing depends on what is told

Sessions and servers tell about themselves if they are asked to. Nothing else may come of it. So a
run that tells nothing is compared with one that does: it ends in the same way and in the same
state, but for the events, which stay as they were at the beginning (`Silences`). This is shown for
each step of a session and carried over to sequences of steps, and from one round and one arrival to
the whole run.
-/

namespace Switchboard

variable {α β : Type}

/-- The same rules, but nothing is told. -/
def Rules.silent (rules : Rules) : Rules :=
  { rules with log := false }

namespace Session

/-- The session with other events. -/
def retold (events : List Event) (session : Session) : Session :=
  { session with events }

/-- A step that does the same as a loud one, but leaves the events as they are. -/
def Silences (loud quiet : EStateM Halt Session α) : Prop :=
  ∀ events session, quiet (session.retold events) = mapState (retold events) (loud session)

namespace Silences

theorem pure (value : α) : Silences (Pure.pure value) (Pure.pure value) :=
  fun _ _ => rfl

theorem throw (halt : Halt) : Silences (throw halt : EStateM Halt Session α) (throw halt) :=
  fun _ _ => rfl

theorem bind {first quietFirst : EStateM Halt Session α}
    {next quietNext : α → EStateM Halt Session β} (early : Silences first quietFirst)
    (late : ∀ value, Silences (next value) (quietNext value)) :
    Silences (first >>= next) (quietFirst >>= quietNext) := by
  intro events session
  have same := early events session
  simp only [Bind.bind, EStateM.bind]
  rw [same]
  cases first session with
  | ok value middle => exact late value events middle
  | error halt after => rfl

end Silences

/-! ## Steps that tell nothing -/

theorem silences_onConnection (action : EStateM Error Connection α) :
    Silences (onConnection action) (onConnection action) := by
  intro events session
  simp only [onConnection, retold]
  cases action session.connection with
  | ok value connection => rfl
  | error error connection => rfl

theorem silences_record (invocation : Invocation) :
    Silences (record invocation) (record invocation) :=
  fun _ _ => rfl

theorem silences_readClock : Silences readClock readClock :=
  fun _ _ => rfl

theorem silences_awaitHeader : Silences awaitHeader awaitHeader := by
  intro events session
  simp only [awaitHeader, retold]
  cases Connection.readHeader session.connection with
  | ok header connection => rfl
  | error error connection =>
      dsimp only
      split <;> rfl

theorem silences_invoke (handler : RequestHandler) (header : Header) (body : Bytes) :
    Silences (invoke handler header body) (invoke handler header body) := by
  refine (silences_record _).bind fun _ => ?_
  cases (handler.answer header body).trouble with
  | none => exact .pure _
  | some trouble => exact .throw _

theorem silences_handOver (handler : StreamHandler) (header : Header) :
    Silences (handOver handler header) (handOver handler header) := by
  intro events session
  simp only [handOver, retold]
  cases handler.run header session.connection with
  | ok value connection => rfl
  | error trouble connection => rfl

/-! ## Serving without telling -/

section

variable (rules : Rules)

theorem silences_tell (event : Event) : Silences (tell rules event) (tell rules.silent event) := by
  intro events session
  cases logs : rules.log with
  | false => simp [tell, Rules.silent, mapState, logs, retold]
  | true => simp [tell, Rules.silent, mapState, logs, retold]

theorem silences_armIdle : Silences (armIdle rules) (armIdle rules.silent) := by
  unfold armIdle
  simp only [Rules.silent]
  cases rules.idleLimit with
  | none => exact .pure ()
  | some limit =>
      dsimp only
      split
      · exact .pure ()
      · refine silences_readClock.bind fun now => ?_
        cases now.later? limit with
        | some deadline => exact silences_onConnection _
        | none => exact .throw _

theorem silences_handleRequest (header : Header) :
    Silences (handleRequest rules header) (handleRequest rules.silent header) := by
  simp only [handleRequest, Rules.silent]
  cases rules.registry.request? header.endpoint with
  | none => exact .throw _
  | some handler =>
      refine (silences_onConnection _).bind fun body => ?_
      refine (silences_invoke handler header body).bind fun output => ?_
      exact (silences_onConnection _).bind fun _ => silences_tell rules _

theorem silences_handleStream (header : Header) :
    Silences (handleStream rules header) (handleStream rules.silent header) := by
  simp only [handleStream, Rules.silent]
  cases rules.registry.stream? header.endpoint with
  | none => exact .throw _
  | some handler =>
      refine (silences_tell rules _).bind fun _ => ?_
      exact (silences_record _).bind fun _ => silences_handOver handler header

theorem silences_route (header : Header) :
    Silences (route rules header) (route rules.silent header) := by
  unfold route
  cases header.kind with
  | none => exact .throw _
  | some kind =>
      cases kind with
      | request => exact (silences_handleRequest rules header).bind fun _ => .pure _
      | stream => exact (silences_handleStream rules header).bind fun _ => .pure _

theorem silences_round : Silences (round rules) (round rules.silent) := by
  refine (silences_armIdle rules).bind fun _ => silences_awaitHeader.bind fun awaited => ?_
  cases awaited with
  | none => exact .pure _
  | some header => exact silences_route rules header

theorem silences_dispatch : Silences (dispatch rules) (dispatch rules.silent) := by
  intro events session
  have round := silences_round rules events
  -- The silent session goes on after the same rounds, so it ends after the same one.
  fun_induction dispatch rules session with
  | case1 session after again ih =>
      rw [dispatch_eq, round, again]
      exact ih
  | case2 session after done =>
      rw [dispatch_eq, round, done]
      rfl
  | case3 session halt after failed =>
      rw [dispatch_eq, round, failed]
      rfl

theorem opening_silent (connection : Connection) (events : List Event) :
    opening rules.silent connection = ((opening rules connection).telling rules events).retold
      [] := by
  cases logs : rules.log <;> simp [telling, opening, Rules.silent, retold, logs]

theorem dispatch_opening_silent (connection : Connection) (events : List Event) :
    dispatch rules.silent (opening rules.silent connection) =
      mapState (retold []) (dispatch rules ((opening rules connection).telling rules events)) := by
  rw [opening_silent rules connection events]
  exact silences_dispatch rules [] _

/-- A session that tells nothing is the same in the end, and nothing has been told. -/
theorem conclude_silent (peer : String) (result : EStateM.Result Halt Session Unit) :
    conclude rules.silent peer (mapState (retold []) result) =
      { session := (conclude rules peer result).session.retold []
        crash := (conclude rules peer result).crash } := by
  rcases result with ⟨_, session⟩ | ⟨_ | _, session⟩ <;>
    cases logs : rules.log <;>
      simp [conclude, mapState, telling, released, Rules.silent, retold, logs]

theorem run_silent (connection : Connection) :
    run rules.silent connection =
      { session := (run rules connection).session.retold []
        crash := (run rules connection).crash } := by
  have quiet : (opening rules.silent connection).telling rules.silent
      [.connected connection.transport.peer] =
      opening rules.silent connection := rfl
  simp only [run]
  rw [quiet, dispatch_opening_silent, conclude_silent]

end

end Session

namespace AcceptQueue

/-- The queue with other events. -/
def retold (events : List Event) (queue : AcceptQueue α) : AcceptQueue α :=
  { queue with events }

@[simp]
theorem stopping_retold (events : List Event) (queue : AcceptQueue α) :
    (queue.retold events).stopping = queue.stopping := rfl

@[simp]
theorem arrivals_retold (events : List Event) (queue : AcceptQueue α) :
    (queue.retold events).arrivals = queue.arrivals := rfl

@[simp]
theorem attempted_retold (events : List Event) (queue : AcceptQueue α) :
    (queue.retold events).attempted = queue.attempted.retold events := rfl

theorem backOff_silent (maxRetries : UInt64) (log : Bool) (fault : Fault) (events : List Event)
    (queue : AcceptQueue α) :
    backOff maxRetries false fault (queue.retold events) =
      mapState (retold events) (backOff maxRetries log fault queue) := by
  simp only [backOff, tell_eq, retold, Bool.false_eq_true, if_false, List.append_nil]
  cases Backoff.retryDelay maxRetries fault queue.backoff with
  | ok delay backoff => rfl
  | error error backoff => rfl

/-- What a call makes of the next arrival. -/
theorem drain_eq (maxRetries : UInt64) (log : Bool) (queue : AcceptQueue α) :
    drain maxRetries log queue =
      if queue.stopping then .ok () queue
      else
        match queue.arrivals with
        | [] => .ok () queue.attempted
        | .connection value stopping :: _ =>
            drain maxRetries log (queue.attempted.takeOver value stopping)
        | .fault fault :: _ =>
            if fault.kind = .wouldBlock then .ok () queue.attempted
            else if fault.isPassing then
              match backOff maxRetries log fault queue.attempted with
              | .ok () after => drain maxRetries log after
              | .error error after => .error error after
            else .error (.io fault) queue.attempted := by
  rw [drain]
  congr 1
  split
  · next same => rw [same]
  · next same => rw [same]
  · next same =>
    rw [same]
    dsimp only
    congr 2
    split
    · next waited => rw [waited]
    · next failed => rw [failed]

theorem drain_silent (maxRetries : UInt64) (log : Bool) (events : List Event)
    (queue : AcceptQueue α) :
    drain maxRetries false (queue.retold events) =
      mapState (retold events) (drain maxRetries log queue) := by
  -- The arrivals are the same, so the silent call takes the same way past each of them.
  fun_induction drain maxRetries log queue with
  | case1 queue stopped =>
      rw [drain_eq, stopping_retold, if_pos stopped]
      rfl
  | case2 queue going empty =>
      rw [drain_eq, stopping_retold, if_neg going, arrivals_retold, empty]
      rfl
  | case3 queue going value stopping later next ih =>
      rw [drain_eq, stopping_retold, if_neg going, arrivals_retold, next]
      exact ih
  | case4 queue going fault later next waiting =>
      rw [drain_eq, stopping_retold, if_neg going, arrivals_retold, next]
      exact if_pos waiting
  | case5 queue going fault later next other passing after waited ih =>
      have waiting := backOff_silent maxRetries log fault events queue.attempted
      rw [waited] at waiting
      rw [drain_eq, stopping_retold, if_neg going, arrivals_retold, next]
      dsimp only
      rw [if_neg other, if_pos passing, attempted_retold, waiting]
      exact ih
  | case6 queue going fault later next other passing error after failed =>
      have waiting := backOff_silent maxRetries log fault events queue.attempted
      rw [failed] at waiting
      rw [drain_eq, stopping_retold, if_neg going, arrivals_retold, next]
      dsimp only
      rw [if_neg other, if_pos passing, attempted_retold, waiting]
      rfl
  | case7 queue going fault later next other lasting =>
      rw [drain_eq, stopping_retold, if_neg going, arrivals_retold, next]
      dsimp only
      rw [if_neg other, if_neg lasting]
      rfl

variable (maxRetries : UInt64) (log : Bool) (events : List Event)

theorem turn_silent (queue : AcceptQueue α) :
    turn maxRetries false (queue.retold events) = turn maxRetries log queue := by
  unfold turn
  rw [drain_silent maxRetries log]
  cases drain maxRetries log queue with
  | ok _ after => rfl
  | error error after => rfl

theorem drained_silent (queue : AcceptQueue α) :
    drained maxRetries false (queue.retold events) =
      (drained maxRetries log queue).retold events := by
  unfold drained
  rw [drain_silent maxRetries log]
  cases drain maxRetries log queue with
  | ok _ after => rfl
  | error error after => rfl

/-- Calls that tell nothing meet, accept and wait for the same as calls that tell, one for one. -/
theorem turns_silent (calls : Nat) (queue : AcceptQueue α) :
    turns maxRetries false calls (queue.retold events) = turns maxRetries log calls queue := by
  induction calls generalizing queue with
  | zero => rfl
  | succ calls ih => rw [turns, turn_silent _ log, drained_silent _ log, ih, turns]

theorem drainedTimes_silent (calls : Nat) (queue : AcceptQueue α) :
    drainedTimes maxRetries false calls (queue.retold events) =
      (drainedTimes maxRetries log calls queue).retold events := by
  induction calls generalizing queue with
  | zero => rfl
  | succ calls ih => rw [drainedTimes, drained_silent _ log, ih, drainedTimes]

end AcceptQueue

/-- Whether anything is told changes nothing but the events. A session ends in the same way, with
the same calls of its transport and the same handlers invoked; a queue is emptied by the same calls,
with the same connections accepted and the same backoff left. If nothing is told, then there are no
events. -/
theorem silence_changes_nothing (rules : Rules) (connection : Connection) (maxRetries : UInt64)
    (calls : Nat) (queue : AcceptQueue α) :
    Session.dispatch rules.silent (Session.opening rules.silent connection) =
        mapState (Session.retold [])
          (Session.dispatch rules
            ((Session.opening rules connection).telling rules
              [.connected connection.transport.peer])) ∧
      Session.run rules.silent connection =
        { session := (Session.run rules connection).session.retold []
          crash := (Session.run rules connection).crash } ∧
      AcceptQueue.turns maxRetries false calls queue =
        AcceptQueue.turns maxRetries true calls queue ∧
      AcceptQueue.drainedTimes maxRetries false calls queue =
        (AcceptQueue.drainedTimes maxRetries true calls queue).retold queue.events :=
  ⟨Session.dispatch_opening_silent rules connection _, Session.run_silent rules connection,
    AcceptQueue.turns_silent maxRetries true queue.events calls queue,
    AcceptQueue.drainedTimes_silent maxRetries true queue.events calls queue⟩

end Switchboard
