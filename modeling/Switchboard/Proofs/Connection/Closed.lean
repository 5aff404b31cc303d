import Switchboard.Proofs.Connection.Operations

/-!
# Closed for good

An operation other than closing neither closes a connection nor shuts its transport down (`Unshut`);
on a closed connection it does nothing at all and is refused (`Inert`). Closing shuts the transport
down once, and how that ends does not matter for what comes later. So a run in which a connection is
closed falls into three parts: the operations before the first closing, that closing, and operations
that do nothing (`Shut`).
-/

namespace Switchboard

namespace Connection

/-! ## What only closing does -/

/-- The connection is as closed as before, and the transport has not been shut down. -/
structure Unshut (before after : Connection) : Prop where
  closed : after.closed = before.closed
  shutdowns : after.transport.shutdowns = before.transport.shutdowns
  shutdownFaults : after.transport.shutdownFaults = before.transport.shutdownFaults

theorem Unshut.refl (connection : Connection) : Unshut connection connection :=
  ⟨rfl, rfl, rfl⟩

theorem Unshut.trans {first second third : Connection} (early : Unshut first second)
    (late : Unshut second third) : Unshut first third :=
  ⟨late.closed.trans early.closed, late.shutdowns.trans early.shutdowns,
    late.shutdownFaults.trans early.shutdownFaults⟩

theorem Unshut.of_entered {call : Transport.Call} {before after : Connection}
    (entered : Entered call before after) (other : ∀ fault, call ≠ .shutdown fault) :
    Unshut before after := by
  refine ⟨entered.closed, ?_, entered.shutdownFaults⟩
  rw [Transport.shutdowns, entered.journal, List.countP_cons_of_neg, Transport.shutdowns]
  cases call with
  | shutdown fault => exact absurd rfl (other fault)
  | _ => exact Bool.false_ne_true

theorem unbroken_unshut : Unbroken Unshut where
  refl := .refl
  trans := .trans
  readClock _ := ⟨rfl, rfl, rfl⟩
  setTimeout limit before := by
    rcases entered_setTimeout limit before with ⟨_, entered⟩
    exact .of_entered entered fun _ => Transport.Call.noConfusion
  read asked before := by
    rcases entered_read asked before with ⟨_, asks, entered⟩
    refine .of_entered entered ?_
    rintro _ rfl
    exact asks
  write offered before := by
    rcases entered_write offered before with ⟨_, asks, entered⟩
    refine .of_entered entered ?_
    rintro _ rfl
    exact asks

theorem unshut_flush : Respects Unshut (onTransport Transport.flush) := by
  intro before
  rcases entered_flush before with ⟨_, entered⟩
  exact .of_entered entered fun _ => Transport.Call.noConfusion

theorem unshut_setDeadline (deadline : Instant) : Respects Unshut (setDeadline deadline) := by
  intro before
  unfold setDeadline ensureOpen
  cases before.closed with
  | true => exact .refl _
  | false => exact ⟨rfl, rfl, rfl⟩

theorem unshut_clearDeadline : Respects Unshut clearDeadline := by
  intro before
  cases closed : before.closed with
  | true =>
      rw [clearDeadline_of_closed closed]
      exact .refl _
  | false =>
      rw [clearDeadline_of_open closed]
      cases before.transport.timeoutFaults.head?.join with
      | none => exact ⟨rfl, rfl, rfl⟩
      | some fault => exact ⟨rfl, rfl, rfl⟩

/-- Every operation but closing leaves the transport up. -/
theorem Operation.unshut_perform {operation : Operation} (other : operation ≠ .close)
    (before : Connection) :
    Unshut before (operation.perform before).after := by
  rcases operation.transfers_or with transfers | ⟨deadline, rfl⟩ | rfl | ⟨limit, rfl⟩ | rfl | rfl
  · exact unbroken_unshut.perform before transfers
  · exact Performed.respects_ofError (unshut_setDeadline deadline) before
  · exact Performed.respects_ofError unshut_clearDeadline before
  · exact ⟨rfl, rfl, rfl⟩
  · exact Performed.respects_ofFault (unbroken_unshut.unlessClosed unshut_flush) before
  · exact absurd rfl other

/-! ## Operations on a closed connection -/

section

variable {α : Type}

theorem Performed.ofError_of_closed {action : EStateM Error Connection α} {before : Connection}
    (refused : action before = .error .connectionClosed before) :
    ∃ limit, Performed.ofError (action before) =
      ⟨.failed .connectionClosed, [], { before with bodyLimit := limit }⟩ := by
  rw [refused]
  exact ⟨before.bodyLimit, rfl⟩

theorem Performed.ofFault_of_closed {action : EStateM Fault Connection α} {before : Connection}
    (refused : action before = .error .closed before) :
    ∃ limit, Performed.ofFault (action before) =
      ⟨.faulted .closed, [], { before with bodyLimit := limit }⟩ := by
  rw [refused]
  exact ⟨before.bodyLimit, rfl⟩

end

namespace Operation

/-- How the operation ends on a closed connection. Reading or writing no bytes at all asks nothing
of it. -/
def refusal : Operation → Report
  | close | limitBodies _ => .done
  | read _ | readToEnd | write _ | flush => .faulted .closed
  | readExact count => if count = 0 then .done else .faulted .closed
  | writeAll offered => if offered = [] then .done else .faulted .closed
  | _ => .failed .connectionClosed

theorem notConnected_of_refusal (operation : Operation) (fault : Fault)
    (refused : operation.refusal = .faulted fault) : fault.kind = .notConnected := by
  cases operation with
  | read | readToEnd | write | flush =>
      cases refused
      rfl
  | readExact count =>
      simp only [refusal] at refused
      split at refused
      · cases refused
      · cases refused
        rfl
  | writeAll offered =>
      simp only [refusal] at refused
      split at refused
      · cases refused
      · cases refused
        rfl
  | _ => cases refused

end Operation

/-- What an operation does to a closed connection: nothing. -/
structure Inert (before : Connection) (operation : Operation) (performed : Performed) : Prop where
  refused : performed.report = operation.refusal
  notConnected : ∀ fault, performed.report = .faulted fault → fault.kind = .notConnected
  left : performed.left = operation.source
  unchanged : performed.after = { before with bodyLimit := performed.after.bodyLimit }
  closed : performed.after.closed = true

section

variable {before : Connection} (closed : before.closed = true)

include closed

theorem unlessClosed_of_closed {α : Type} (action : EStateM Fault Connection α) :
    unlessClosed action before = .error .closed before :=
  if_pos closed

theorem writeMessage_of_closed (message : Bytes) :
    writeMessage message before = .error .connectionClosed before := by
  simp only [writeMessage, Bind.bind, EStateM.bind, ensureOpen_of_closed closed]

theorem readBody_of_closed (header : Header) :
    readBody header before = .error .connectionClosed before := by
  simp only [readBody, Bind.bind, EStateM.bind, ensureOpen_of_closed closed]

theorem readFramed_of_closed : readFramed before = .error .connectionClosed before := by
  simp only [readFramed, Bind.bind, EStateM.bind, readHeader_of_closed closed]

theorem readFramedText_of_closed : readFramedText before = .error .connectionClosed before := by
  simp only [readFramedText, Bind.bind, EStateM.bind, readFramed_of_closed closed]

theorem readExact_of_closed (count : Nat) :
    readExact count before = if count = 0 then .ok [] before else .error .closed before := by
  split
  · next none =>
    rw [readExact, none, Reader.readExact_eq]
    rfl
  · next positive =>
    exact Reader.readExact_of_error (by decide) positive (unlessClosed_of_closed closed _)

theorem readToEnd_of_closed : readToEnd before = ⟨[], some .closed, before⟩ :=
  Reader.drain_of_error (by decide) (unlessClosed_of_closed closed _)

theorem writeAll_of_closed (offered : Bytes) :
    writeAll offered before = if offered = [] then .ok () before else .error .closed before := by
  split
  · next none =>
    rw [writeAll, none, Writer.writeAll_eq]
  · next nonempty =>
    exact Writer.writeAll_of_error nonempty (by decide) (unlessClosed_of_closed closed _)

theorem close_of_closed : close before = .ok () before :=
  if_pos closed

theorem perform_of_closed (operation : Operation) :
    ∃ limit, operation.perform before =
      ⟨operation.refusal, operation.source, { before with bodyLimit := limit }⟩ := by
  cases operation with
  | writeHeader header => exact Performed.ofError_of_closed (writeMessage_of_closed closed _)
  | writeFramed endpoint body => exact Performed.ofError_of_closed (writeMessage_of_closed closed _)
  | writeFramedText endpoint text =>
      exact Performed.ofError_of_closed (writeMessage_of_closed closed _)
  | writeFramedFrom endpoint source =>
      refine ⟨before.bodyLimit, ?_⟩
      simp only [Operation.perform, writeFramedFrom, ensureOpen_of_closed closed]
      rfl
  | readHeader => exact Performed.ofError_of_closed (readHeader_of_closed closed)
  | readBody header => exact Performed.ofError_of_closed (readBody_of_closed closed header)
  | readFramed => exact Performed.ofError_of_closed (readFramed_of_closed closed)
  | readFramedText => exact Performed.ofError_of_closed (readFramedText_of_closed closed)
  | setDeadline deadline =>
      exact Performed.ofError_of_closed (setDeadline_of_closed closed deadline)
  | clearDeadline => exact Performed.ofError_of_closed (clearDeadline_of_closed closed)
  | limitBodies limit => exact ⟨limit, rfl⟩
  | read asked => exact Performed.ofFault_of_closed (unlessClosed_of_closed closed _)
  | readExact count =>
      refine ⟨before.bodyLimit, ?_⟩
      simp only [Operation.perform, readExact_of_closed closed, Operation.refusal]
      split <;> rfl
  | readToEnd =>
      refine ⟨before.bodyLimit, ?_⟩
      simp only [Operation.perform, readToEnd_of_closed closed]
      rfl
  | write offered => exact Performed.ofFault_of_closed (unlessClosed_of_closed closed _)
  | writeAll offered =>
      refine ⟨before.bodyLimit, ?_⟩
      simp only [Operation.perform, writeAll_of_closed closed, Operation.refusal]
      split <;> rfl
  | flush => exact Performed.ofFault_of_closed (unlessClosed_of_closed closed _)
  | close =>
      refine ⟨before.bodyLimit, ?_⟩
      simp only [Operation.perform, close_of_closed closed]
      rfl

theorem inert_perform (operation : Operation) :
    Inert before operation (operation.perform before) := by
  rcases perform_of_closed closed operation with ⟨limit, same⟩
  rw [same]
  exact ⟨rfl, operation.notConnected_of_refusal, rfl, rfl, closed⟩

end

/-! ## Closing -/

/-- The connection after its transport was shut down. -/
def shutDown (before : Connection) : Connection :=
  { before with
    closed := true
    transport := { before.transport with
      shutdownFaults := before.transport.shutdownFaults.tail
      journal := .shutdown before.transport.shutdownFaults.head?.join ::
        before.transport.journal } }

/-- What a closing does: it shuts the transport down unless it has been done before. That the
transport was not connected any more does not count as a failure. -/
structure Closing (before : Connection) (performed : Performed) : Prop where
  closed : performed.after.closed = true
  after : performed.after = if before.closed then before else before.shutDown
  report : performed.report = .done ∨ ∃ error, performed.report = .failed error
  fails_iff : ∀ error, performed.report = .failed error ↔ before.closed = false ∧
    ∃ fault, before.transport.shutdownFaults.head?.join = some fault ∧ fault.kind ≠ .notConnected ∧
      error = .io fault

theorem close_of_open {before : Connection} (isOpen : before.closed = false) :
    close before =
      match before.transport.shutdownFaults.head?.join with
      | none => .ok () before.shutDown
      | some fault =>
          if fault.kind = .notConnected then .ok () before.shutDown
            else .error (.io fault) before.shutDown := by
  unfold close shutDown
  simp only [isOpen, onTransport, Transport.shutdown]
  cases before.transport.shutdownFaults.head?.join with
  | none => rfl
  | some fault => rfl

theorem closing_perform (before : Connection) :
    Closing before (Operation.close.perform before) := by
  cases closed : before.closed with
  | true =>
      simp only [Operation.perform, close_of_closed closed, Performed.ofError]
      refine ⟨closed, (if_pos closed).symm, Or.inl rfl, ?_⟩
      simp [closed]
  | false =>
      have left (after : Connection) (same : after = before.shutDown) :
          after = if before.closed then before else before.shutDown := by
        rw [same, closed]
        rfl
      simp only [Operation.perform, close_of_open closed]
      cases outcome : before.transport.shutdownFaults.head?.join with
      | none =>
          refine ⟨rfl, left _ rfl, Or.inl rfl, ?_⟩
          simp [Performed.ofError, outcome]
      | some fault =>
          by_cases gone : fault.kind = .notConnected
          · simp only [gone, if_true, Performed.ofError]
            refine ⟨rfl, left _ rfl, Or.inl rfl, ?_⟩
            simp [outcome, gone]
          · simp only [gone, if_false, Performed.ofError]
            refine ⟨rfl, left _ rfl, Or.inr ⟨_, rfl⟩, ?_⟩
            intro error
            rw [outcome, Report.failed.injEq]
            constructor
            · rintro rfl
              exact ⟨closed, fault, rfl, gone, rfl⟩
            · rintro ⟨_, _, same, _, rfl⟩
              cases same
              rfl

/-! ## A whole run -/

/-- The connection after several operations, however each of them has ended. -/
def undergo : List Operation → Connection → Connection
  | [], before => before
  | operation :: later, before => undergo later (operation.perform before).after

theorem undergo_append (earlier later : List Operation) (before : Connection) :
    undergo (earlier ++ later) before = undergo later (undergo earlier before) := by
  induction earlier generalizing before with
  | nil => rfl
  | cons operation earlier ih => exact ih _

theorem unshut_undergo {operations : List Operation} (unclosing : .close ∉ operations)
    (before : Connection) :
    Unshut before (undergo operations before) := by
  induction operations generalizing before with
  | nil => exact .refl _
  | cons operation later ih =>
      rw [List.mem_cons, not_or] at unclosing
      exact (Operation.unshut_perform (Ne.symm unclosing.1) before).trans (ih unclosing.2 _)

/-- After operations on a closed connection everything but the limit on bodies is as it was. -/
theorem undergo_of_closed (operations : List Operation) {before : Connection}
    (closed : before.closed = true) :
    undergo operations before =
      { before with bodyLimit := (undergo operations before).bodyLimit } := by
  induction operations generalizing before with
  | nil => rfl
  | cons operation later ih =>
      have inert := inert_perform closed operation
      rw [undergo, ih inert.closed, inert.unchanged]

/-- A run in which a connection is closed, split at the first closing. -/
structure Shut (before : Connection) (earlier later : List Operation) : Prop where
  unshut : Unshut before (undergo earlier before)
  closing : Closing (undergo earlier before) (Operation.close.perform (undergo earlier before))
  quiet : (undergo (earlier ++ .close :: later) before).transport =
    (Operation.close.perform (undergo earlier before)).after.transport
  inert : ∀ past operation rest, later = past ++ operation :: rest →
    Inert (undergo (earlier ++ .close :: past) before) operation
      (operation.perform (undergo (earlier ++ .close :: past) before))
  once : (undergo (earlier ++ .close :: later) before).transport.shutdowns =
    before.transport.shutdowns + if before.closed then 0 else 1

/-- A closed connection is inert for ever. Nothing before the first closing shuts the transport
down, nothing after it reaches the transport or is taken from a source, and everything that is asked
after it is refused. -/
theorem closed_is_inert (before : Connection) {operations : List Operation}
    (closes : .close ∈ operations) :
    ∃ earlier later, operations = earlier ++ .close :: later ∧ .close ∉ earlier ∧
      Shut before earlier later := by
  rcases List.eq_append_cons_of_mem closes with ⟨earlier, later, split, first⟩
  refine ⟨earlier, later, split, first, ?_⟩
  have unshut := unshut_undergo first before
  have closing := closing_perform (undergo earlier before)
  have closed (past : List Operation) :
      (undergo (earlier ++ .close :: past) before).closed = true := by
    rw [undergo_append, undergo, undergo_of_closed past closing.closed]
    exact closing.closed
  refine ⟨unshut, closing, ?_, ?_, ?_⟩
  · rw [undergo_append, undergo, undergo_of_closed later closing.closed]
  · intro past operation rest _
    exact inert_perform (closed past) operation
  · rw [undergo_append, undergo, undergo_of_closed later closing.closed, closing.after,
      unshut.closed, ← unshut.shutdowns]
    cases before.closed with
    | true => rfl
    | false => exact List.countP_cons_of_pos rfl

/-- A connection whose transport fails to be shut down. -/
def stuck : Connection :=
  .ofTransport ⟨"peer", [], [], [], [], [some (.plain .other)], .stopped default, []⟩

theorem stuck_is_inert :
    Operation.close ∈ [.setDeadline default, .close, .readHeader, .close] ∧
      ∃ earlier later, [Operation.setDeadline default, .close, .readHeader, .close] =
        earlier ++ .close :: later ∧
        .close ∉ earlier ∧ Shut stuck earlier later := by
  have closes : Operation.close ∈ [.setDeadline default, .close, .readHeader, .close] := by simp
  exact ⟨closes, closed_is_inert stuck closes⟩

end Connection

end Switchboard
