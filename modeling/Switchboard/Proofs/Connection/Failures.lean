import Switchboard.Proofs.Connection.Operations

/-!
# What failures leave of a connection

Whatever is asked of a connection, closing apart, may fail at any of its calls of the transport. It
is still open then, or closed, as it was before; it reads bodies up to the same length; and its
deadline is still the same, with one exception. A deadline that is to be cleared is forgotten before
the transport is told to lift its time limit. If the transport fails there, the operation has
failed, and the deadline is gone (`Spared`). So what comes next is not bounded by it any more.
-/

namespace Switchboard.Connection

theorem kept_flush : Respects Kept flush := by
  refine unbroken_kept.unlessClosed ?_
  intro before
  simp only [onTransport, Transport.flush]
  cases before.transport.flushFaults.head?.join with
  | none => exact .of_transport rfl (List.suffix_refl _) (List.suffix_refl _) (List.suffix_refl _)
  | some fault =>
      exact .of_transport rfl (List.suffix_refl _) (List.suffix_refl _) (List.suffix_refl _)

theorem held_relieved (before : Connection) : Held before before.relieved :=
  ⟨rfl, rfl, rfl, rfl, List.suffix_refl _, List.tail_suffix _, List.suffix_refl _⟩

/-- What an operation that has failed leaves of a connection. -/
structure Spared (before : Connection) (operation : Operation) (performed : Performed) : Prop where
  held : Held before performed.after
  deadline : operation ≠ .clearDeadline ∨ before.closed = true →
    performed.after.deadline = before.deadline
  /-- An open connection has no deadline any more after a failure to clear it. -/
  forgotten : operation = .clearDeadline → before.closed = false →
    ∃ fault, before.transport.timeoutFaults.head?.join = some fault ∧
      performed = ⟨.failed (.io fault), [], before.relieved⟩

theorem spared_of_kept {before : Connection} {operation : Operation} {performed : Performed}
    (other : operation ≠ .clearDeadline) (kept : Kept before performed.after) :
    Spared before operation performed :=
  ⟨kept.toHeld, fun _ => kept.deadline, fun same => absurd same other⟩

theorem spared_clearDeadline {before : Connection}
    (failed : (Operation.clearDeadline.perform before).report ≠ .done) :
    Spared before .clearDeadline (Operation.clearDeadline.perform before) := by
  cases closed : before.closed with
  | true =>
      have unchanged : (Operation.clearDeadline.perform before).after = before := by
        simp only [Operation.perform, clearDeadline_of_closed closed]
        rfl
      refine ⟨?_, fun _ => by rw [unchanged], fun _ isOpen => ?_⟩
      · rw [unchanged]
        exact .refl _
      · rw [closed] at isOpen
        cases isOpen
  | false =>
      rw [Operation.perform_clearDeadline closed] at failed ⊢
      cases outcome : before.transport.timeoutFaults.head?.join with
      | none =>
          rw [outcome] at failed
          exact absurd rfl failed
      | some fault =>
          refine ⟨held_relieved before, ?_, fun _ _ => ⟨fault, outcome, rfl⟩⟩
          rintro (other | never)
          · exact absurd rfl other
          · rw [closed] at never
            cases never

/-- An operation that fails leaves the connection as open, as patient and as generous as it was. The
one exception is clearing the deadline of an open connection: if the transport fails to lift its
time limit, the deadline is gone all the same. Closing is not covered: a connection whose transport
fails to be shut down is closed. -/
theorem failures_spare_connection (before : Connection) {operation : Operation}
    (other : operation ≠ .close) (failed : (operation.perform before).report ≠ .done) :
    Spared before operation (operation.perform before) := by
  rcases operation.transfers_or with transfers | ⟨deadline, rfl⟩ | rfl | ⟨limit, rfl⟩ | rfl | rfl
  · refine spared_of_kept ?_ (unbroken_kept.perform before transfers)
    rintro rfl
    exact transfers
  · refine spared_of_kept Operation.noConfusion ?_
    cases closed : before.closed with
    | true =>
        simp only [Operation.perform, setDeadline_of_closed closed]
        exact .refl _
    | false =>
        simp only [Operation.perform, setDeadline_of_open closed] at failed
        exact absurd rfl failed
  · exact spared_clearDeadline failed
  · exact absurd rfl failed
  · exact spared_of_kept Operation.noConfusion (Performed.respects_ofFault kept_flush before)
  · exact absurd rfl other

/-- A connection at its deadline whose transport refuses to change its time limit. -/
def stubborn : Connection :=
  { ofTransport
      ⟨"peer", [.data 7 []], [], [some (.plain .other)], [], [], .stopped default, []⟩ with
    deadline := some default }

theorem late_read_spares_stubborn :
    Operation.read 1 ≠ .close ∧ ((Operation.read 1).perform stubborn).report ≠ .done ∧
      Spared stubborn (.read 1) ((Operation.read 1).perform stubborn) := by
  have failed : ((Operation.read 1).perform stubborn).report ≠ .done := by
    have late : ((Operation.read 1).perform stubborn).report = .faulted .pastDeadline := rfl
    rw [late]
    exact Report.noConfusion
  exact ⟨Operation.noConfusion, failed,
    failures_spare_connection stubborn Operation.noConfusion failed⟩

/-- Before the failure nothing can be read from the connection, and after it a byte can. -/
theorem failed_clearing_forgets_deadline :
    (Operation.clearDeadline.perform stubborn).report = .failed (.io (.plain .other)) ∧
      (Operation.clearDeadline.perform stubborn).after.deadline ≠ stubborn.deadline ∧
      ((Operation.read 1).perform stubborn).report = .faulted .pastDeadline ∧
      (Operation.read 1).yield (Operation.clearDeadline.perform stubborn).after =
        some (.bytes [7]) := by
  refine ⟨rfl, ?_, rfl, rfl⟩
  have forgotten : (Operation.clearDeadline.perform stubborn).after.deadline = none := rfl
  rw [forgotten]
  intro same
  cases same

end Switchboard.Connection
