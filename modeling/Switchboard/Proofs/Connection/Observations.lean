import Switchboard.Proofs.Connection.Closed

/-!
# What can be seen of operations

An operation shows how it has ended and what it has returned, what it has left of a source, and its
calls of the transport with what came of them. So what it shows tells which bytes it has consumed
and which it has sent.

Nothing of this depends on what had been done on the connection before, and while there is no
deadline it does not depend on the clock. Two connections that differ in nothing else stay that way,
whatever is asked of both of them (`Abreast`), and show the same (`observations_eq`). Only when a
deadline is set do the clocks have to be the same.
-/

namespace Switchboard.Connection

/-- What can be seen of an operation that is over. -/
structure Observation where
  report : Report
  /-- What is left of the source that came with the operation. -/
  rest : Source
  yield : Option Yield
  calls : List Transport.Call

def Operation.observe (before : Connection) (operation : Operation) : Observation :=
  ⟨(operation.perform before).report, (operation.perform before).left, operation.yield before,
    operation.calls before⟩

/-- What can be seen of several operations, however each of them ends. -/
def observations : List Operation → Connection → List Observation
  | [], _ => []
  | operation :: later, before =>
      operation.observe before :: observations later (operation.perform before).after

/-- The connection with another clock and with other things done on it. -/
def restaged (connection : Connection) (clock : Clock) (journal : List Transport.Call) :
    Connection :=
  { connection with transport := { connection.transport with clock, journal } }

/-! ## Connections that differ in their past -/

section

variable (synced : Prop) (early late : List Transport.Call)

/-- Since their pasts, the same has been done on both connections. Their clocks are the same, or
there is no deadline to which they matter. -/
def Abreast (left right : Connection) : Prop :=
  ∃ calls clock, left.transport.journal = calls ++ early ∧
    right = left.restaged clock (calls ++ late) ∧
    (synced → clock = left.transport.clock) ∧ (¬synced → left.deadline = none)

/-- Two connections with different pasts. -/
def abreast {ε : Type} : Comparison ε Connection where
  alike := Abreast synced early late
  fails _ := Abreast synced early late
  cut _ _ := False

theorem abreast_read (asked : Nat) :
    (abreast synced early late).Mirrors (onTransport (Transport.read asked))
      (onTransport (Transport.read asked)) := by
  rintro left _ ⟨calls, clock, journal, rfl, same, free⟩
  simp only [onTransport, Transport.read, restaged]
  cases left.transport.incoming.read asked with
  | ok data rest => exact .ok ⟨_ :: calls, clock, congrArg (_ :: ·) journal, rfl, same, free⟩
  | error fault rest => exact .error ⟨_ :: calls, clock, congrArg (_ :: ·) journal, rfl, same, free⟩

theorem abreast_write (offered : Bytes) :
    (abreast synced early late).Mirrors (onTransport (Transport.write offered))
      (onTransport (Transport.write offered)) := by
  rintro left _ ⟨calls, clock, journal, rfl, same, free⟩
  simp only [onTransport, Transport.write, restaged]
  rcases script : left.transport.outgoing with _ | ⟨count | fault, later⟩
  · refine .ok ⟨_ :: calls, clock, congrArg (_ :: ·) journal, ?_, same, free⟩
    simp only [Transport.enter, restaged, script, List.cons_append]
  · exact .ok ⟨_ :: calls, clock, congrArg (_ :: ·) journal, rfl, same, free⟩
  · exact .error ⟨_ :: calls, clock, congrArg (_ :: ·) journal, rfl, same, free⟩

theorem abreast_setTimeout (limit : Option Duration) :
    (abreast synced early late).Mirrors (onTransport (Transport.setTimeout limit))
      (onTransport (Transport.setTimeout limit)) := by
  rintro left _ ⟨calls, clock, journal, rfl, same, free⟩
  simp only [onTransport, Transport.setTimeout, restaged]
  cases left.transport.timeoutFaults.head?.join with
  | none => exact .ok ⟨_ :: calls, clock, congrArg (_ :: ·) journal, rfl, same, free⟩
  | some fault => exact .error ⟨_ :: calls, clock, congrArg (_ :: ·) journal, rfl, same, free⟩

theorem abreast_flush :
    (abreast synced early late).Mirrors (onTransport Transport.flush)
      (onTransport Transport.flush) := by
  rintro left _ ⟨calls, clock, journal, rfl, same, free⟩
  simp only [onTransport, Transport.flush, restaged]
  cases left.transport.flushFaults.head?.join with
  | none => exact .ok ⟨_ :: calls, clock, congrArg (_ :: ·) journal, rfl, same, free⟩
  | some fault => exact .error ⟨_ :: calls, clock, congrArg (_ :: ·) journal, rfl, same, free⟩

theorem abreast_arm : (abreast synced early late).Mirrors arm arm := by
  rintro left _ ⟨calls, clock, journal, rfl, same, free⟩
  cases dated : left.deadline with
  | none =>
      have untimed : (left.restaged clock (calls ++ late)).deadline = none := dated
      rw [arm_of_untimed dated, arm_of_untimed untimed]
      exact .ok ⟨calls, clock, journal, rfl, same, free⟩
  | some deadline =>
      -- Only a deadline makes the connection look at its clock, and then the clocks are the same.
      have level : clock = left.transport.clock := by
        by_cases keeps : synced
        · exact same keeps
        · rw [free keeps] at dated
          cases dated
      subst level
      have ticked : Abreast synced early late { left with transport := left.transport.readClock.2 }
          { left.restaged left.transport.clock (calls ++ late) with
            transport :=
              (left.restaged left.transport.clock (calls ++ late)).transport.readClock.2 } :=
        ⟨_ :: calls, _, congrArg (_ :: ·) journal, rfl, fun _ => rfl, free⟩
      simp only [arm, dated, restaged, Transport.readClock] at ticked ⊢
      split
      · exact .error ticked
      · exact abreast_setTimeout synced early late _ ticked

theorem matching_abreast :
    Matching (abreast synced early late) (abreast synced early late) where
  resumable := ⟨Iff.rfl, fun never => absurd never not_false⟩
  alike_iff := Iff.rfl
  fails_iff := Iff.rfl
  cut_iff := ⟨fun never => absurd never not_false, fun ⟨_, _, never⟩ => never⟩
  unended never := absurd never not_false
  closed := by
    rintro left _ ⟨_, _, _, rfl, _⟩
    rfl
  bodyLimit := by
    rintro left _ ⟨_, _, _, rfl, _⟩
    rfl
  timedRead asked := (abreast_arm synced early late).bind fun _ =>
    abreast_read synced early late asked
  timedWrite offered := (abreast_arm synced early late).bind fun _ =>
    abreast_write synced early late offered

/-- What has come to the journals since is the same. -/
theorem calls_of_abreast {operation : Operation} {left right : Connection}
    (before : Abreast synced early late left right)
    (after : Abreast synced early late (operation.perform left).after
      (operation.perform right).after) :
    operation.calls left = operation.calls right := by
  rcases before with ⟨calls, _, journal, rfl, _⟩
  rcases after with ⟨grown, _, journalAfter, same, _⟩
  have other := congrArg (·.transport.journal) same
  have new (past : List Transport.Call) :
      (grown ++ past).take ((grown ++ past).length - (calls ++ past).length) =
        grown.take (grown.length - calls.length) := by
    rw [List.length_append, List.length_append, Nat.add_sub_add_right,
      List.take_append_of_le_length (Nat.sub_le _ _)]
  calc operation.calls left
      = (grown ++ early).take ((grown ++ early).length - (calls ++ early).length) := by
        rw [Operation.calls, Transport.since, journalAfter, journal]
    _ = (grown ++ late).take ((grown ++ late).length - (calls ++ late).length) := by
        rw [new, new]
    _ = _ := by
        rw [Operation.calls, Transport.since, other]
        rfl

theorem abreast_setDeadline (keeps : synced) (deadline : Instant) :
    (abreast synced early late).Mirrors (setDeadline deadline) (setDeadline deadline) := by
  rintro left _ ⟨calls, clock, journal, rfl, same, free⟩
  cases closed : left.closed with
  | true =>
      have closedRight : (left.restaged clock (calls ++ late)).closed = true := closed
      rw [setDeadline_of_closed closed, setDeadline_of_closed closedRight]
      exact .error ⟨calls, clock, journal, rfl, same, free⟩
  | false =>
      have openRight : (left.restaged clock (calls ++ late)).closed = false := closed
      rw [setDeadline_of_open closed, setDeadline_of_open openRight]
      exact .ok ⟨calls, clock, journal, rfl, same, fun never => absurd keeps never⟩

theorem abreast_clearDeadline :
    (abreast synced early late).Mirrors clearDeadline clearDeadline := by
  rintro left _ ⟨calls, clock, journal, rfl, same, free⟩
  cases closed : left.closed with
  | true =>
      have closedRight : (left.restaged clock (calls ++ late)).closed = true := closed
      rw [clearDeadline_of_closed closed, clearDeadline_of_closed closedRight]
      exact .error ⟨calls, clock, journal, rfl, same, free⟩
  | false =>
      have openRight : (left.restaged clock (calls ++ late)).closed = false := closed
      have relieved : Abreast synced early late left.relieved
          (left.restaged clock (calls ++ late)).relieved :=
        ⟨_ :: calls, clock, congrArg (_ :: ·) journal, rfl, same, fun _ => rfl⟩
      have outcome : (left.restaged clock (calls ++ late)).transport.timeoutFaults.head?.join =
        left.transport.timeoutFaults.head?.join := rfl
      rw [clearDeadline_of_open closed, clearDeadline_of_open openRight, outcome]
      cases left.transport.timeoutFaults.head?.join with
      | none => exact .ok relieved
      | some fault => exact .error relieved

theorem abreast_close : (abreast synced early late).Mirrors close close := by
  rintro left _ ⟨calls, clock, journal, rfl, same, free⟩
  cases closed : left.closed with
  | true =>
      have closedRight : (left.restaged clock (calls ++ late)).closed = true := closed
      rw [close_of_closed closed, close_of_closed closedRight]
      exact .ok ⟨calls, clock, journal, rfl, same, free⟩
  | false =>
      have openRight : (left.restaged clock (calls ++ late)).closed = false := closed
      have down : Abreast synced early late left.shutDown
          (left.restaged clock (calls ++ late)).shutDown :=
        ⟨_ :: calls, clock, congrArg (_ :: ·) journal, rfl, same, free⟩
      have outcome : (left.restaged clock (calls ++ late)).transport.shutdownFaults.head?.join =
        left.transport.shutdownFaults.head?.join := rfl
      rw [close_of_open closed, close_of_open openRight, outcome]
      cases left.transport.shutdownFaults.head?.join with
      | none => exact .ok down
      | some fault =>
          dsimp only
          split
          · exact .ok down
          · exact .error down

/-- An operation ends in the same way on two connections with different pasts, and they differ in
nothing else. -/
theorem alongside_of_abreast {operation : Operation} {left right : Connection}
    (alike : Abreast synced early late left right)
    (dates : synced ∨ ∀ deadline, operation ≠ .setDeadline deadline) :
    Matching.Alongside (abreast synced early late) operation left right := by
  have matching := matching_abreast synced early late
  rcases operation.transfers_or with transfers | ⟨deadline, rfl⟩ | rfl | ⟨limit, rfl⟩ | rfl | rfl
  · exact matching.perform alike transfers
  · rcases dates with keeps | never
    · exact matching.alongside_ofError (abreast_setDeadline synced early late keeps deadline)
        (fun _ => none) alike
    · exact absurd rfl (never deadline)
  · exact matching.alongside_ofError (abreast_clearDeadline synced early late) (fun _ => none) alike
  · rcases alike with ⟨calls, clock, journal, rfl, same, free⟩
    exact Or.inl ⟨⟨rfl, rfl, rfl⟩, calls, clock, journal, rfl, same, free⟩
  · exact matching.alongside_ofFault (matching.unlessClosed (abreast_flush synced early late))
      (fun _ => none) alike
  · exact matching.alongside_ofError (abreast_close synced early late) (fun _ => none) alike

end

section

variable {synced : Prop} {early late : List Transport.Call} {left right : Connection}

theorem Abreast.incoming (alike : Abreast synced early late left right) :
    right.transport.incoming = left.transport.incoming := by
  rcases alike with ⟨_, _, _, rfl, _⟩
  rfl

theorem Abreast.observe {operation : Operation} (alike : Abreast synced early late left right)
    (dates : synced ∨ ∀ deadline, operation ≠ .setDeadline deadline) :
    operation.observe left = operation.observe right ∧
      Abreast synced early late (operation.perform left).after (operation.perform right).after := by
  rcases alongside_of_abreast synced early late alike dates with ⟨same, after⟩ | ⟨_, _, never⟩
  · refine ⟨?_, after⟩
    simp only [Operation.observe, same.report, same.rest, same.yield,
      calls_of_abreast synced early late alike after]
  · exact absurd never not_false

/-- Two connections with different pasts show the same, whatever is asked of both. -/
theorem observations_eq {operations : List Operation} (alike : Abreast synced early late left right)
    (dates : synced ∨ ∀ deadline, .setDeadline deadline ∉ operations) :
    observations operations left = observations operations right ∧
      Abreast synced early late (undergo operations left) (undergo operations right) := by
  induction operations generalizing left right with
  | nil => exact ⟨rfl, alike⟩
  | cons operation later ih =>
      -- Deadlines are the one thing that may bring the clocks back into play.
      have first : synced ∨ ∀ deadline, operation ≠ .setDeadline deadline :=
        dates.imp_right fun never deadline same => never deadline (same ▸ List.mem_cons_self)
      have rest : synced ∨ ∀ deadline, .setDeadline deadline ∉ later :=
        dates.imp_right fun never deadline among => never deadline (List.mem_cons_of_mem _ among)
      rcases alike.observe first with ⟨shown, after⟩
      rcases ih after rest with ⟨same, last⟩
      exact ⟨by rw [observations, observations, shown, same], last⟩

end

/-- Once a deadline is cleared, neither the past of a connection nor the time that has passed can be
seen any more. If another deadline is set later, the time has to be the same. -/
theorem observations_of_clearing {before : Connection} (isOpen : before.closed = false)
    {clock : Clock} (journal : List Transport.Call) {later : List Operation}
    (dates : clock = before.transport.clock ∨ ∀ deadline, .setDeadline deadline ∉ later) :
    observations (.clearDeadline :: later) before =
        observations (.clearDeadline :: later) (before.restaged clock journal) ∧
      (undergo (.clearDeadline :: later) (before.restaged clock journal)).transport.incoming =
        (undergo (.clearDeadline :: later) before).transport.incoming := by
  have openThere : (before.restaged clock journal).closed = false := isOpen
  have here := Operation.perform_clearDeadline isOpen
  have there := Operation.perform_clearDeadline openThere
  have alike : Abreast (clock = before.transport.clock) before.transport.journal journal
      (Operation.clearDeadline.perform before).after
      (Operation.clearDeadline.perform (before.restaged clock journal)).after := by
    rw [here, there]
    exact ⟨[_], clock, rfl, rfl, id, fun _ => rfl⟩
  have shown : Operation.clearDeadline.observe before =
      Operation.clearDeadline.observe (before.restaged clock journal) := by
    simp only [Operation.observe, Operation.calls_clearDeadline isOpen,
      Operation.calls_clearDeadline openThere, here, there]
    rfl
  rcases observations_eq alike dates with ⟨same, last⟩
  exact ⟨by rw [observations, observations, shown, same], last.incoming⟩

end Switchboard.Connection
