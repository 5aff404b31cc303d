import Switchboard.Proofs.Connection.Closed
import Switchboard.Proofs.Connection.Pieces

/-!
# What each write is offered

Writing a message on a connection without a deadline is a sequence of writes of the transport and
nothing else. Each of them is offered what the ones before it have not taken, to the byte, so
nothing is lost and nothing goes out twice, however the transport cuts the message and however often
it interrupts. The first write that takes nothing, or fails with something other than an
interruption, ends it. So a success is the same as a message that is out as a whole (`GoesOut`).

A body that comes from a source is written like any other, once all of it is there. A source that
fails has therefore cost the peer nothing.
-/

namespace Switchboard

namespace Transport

/-- What a transport with some script says to the bytes that it is offered next. -/
def answer (script : List Intake) (offered : Bytes) : Except Fault Nat :=
  match script with
  | [] => .ok offered.length
  | .accept count :: _ => .ok (min count offered.length)
  | .fault fault :: _ => .error fault

/-- Why nothing is offered after a call, if there is a reason in it. -/
def Call.stop? : Call → Option Fault
  | .write _ (.ok 0) => some .unwritten
  | .write _ (.error fault) => if fault.isInterrupted then none else some fault
  | _ => none

/-- The call that offers some bytes to a transport with some script. -/
def offering (script : List Intake) (offered : Bytes) : Call :=
  .write offered (answer script offered)

variable {script : List Intake} {offered : Bytes}

theorem sent_offering_of_ok {taken : Nat} (said : answer script offered = .ok taken) :
    (offering script offered).sent = offered.take taken := by
  rw [offering, said, Call.sent]

theorem sent_offering_of_error {fault : Fault} (said : answer script offered = .error fault) :
    (offering script offered).sent = [] := by
  rw [offering, said, Call.sent]
  rintro _ _ ⟨⟩

theorem sent_offering_prefix (script : List Intake) (offered : Bytes) :
    (offering script offered).sent <+: offered := by
  cases said : answer script offered with
  | ok taken =>
      rw [sent_offering_of_ok said]
      exact List.take_prefix _ _
  | error fault =>
      rw [sent_offering_of_error said]
      exact List.nil_prefix

end Transport

namespace Connection

open Transport (answer offering)

/-! ## The writes of a message -/

/-- The connection after the next write was offered some bytes. -/
def offered (connection : Connection) (bytes : Bytes) : Connection :=
  { connection with transport := { connection.transport with
    outgoing := connection.transport.outgoing.tail
    journal := offering connection.transport.outgoing bytes :: connection.transport.journal } }

/-- Calls with which a message, or a part of it, has been written. Nothing else has happened, and
each call was offered what the ones before it had not taken, and was answered as the script says. -/
structure Offers (message : Bytes) (calls : List Transport.Call) (before after : Connection) :
    Prop where
  unchanged : after = { before with transport := { before.transport with
    outgoing := before.transport.outgoing.drop calls.length
    journal := calls.reverse ++ before.transport.journal } }
  offered : ∀ earlier call later, calls = earlier ++ call :: later →
    call = offering (before.transport.outgoing.drop earlier.length)
      (message.drop (earlier.flatMap Transport.Call.sent).length)
  part : calls.flatMap Transport.Call.sent <+: message

theorem Offers.nil (message : Bytes) (connection : Connection) :
    Offers message [] connection connection where
  unchanged := rfl
  offered := by simp
  part := List.nil_prefix

theorem Offers.cons {message : Bytes} {calls : List Transport.Call} {before after : Connection}
    (rest : Offers (message.drop (offering before.transport.outgoing message).sent.length) calls
      (before.offered message) after) :
    Offers message (offering before.transport.outgoing message :: calls) before after where
  unchanged := by
    rw [rest.unchanged]
    simp [Connection.offered]
  offered := by
    intro earlier other later split
    cases earlier with
    | nil =>
        rw [List.nil_append, List.cons.injEq] at split
        simp [← split.1]
    | cons head past =>
        rw [List.cons_append, List.cons.injEq] at split
        have offered := rest.offered past other later split.2
        rw [← split.1]
        simpa [Connection.offered, List.drop_drop, Nat.add_comm] using offered
  part := by
    have start := Transport.sent_offering_prefix before.transport.outgoing message
    have whole := (List.prefix_append_right_inj
      (offering before.transport.outgoing message).sent).mpr rest.part
    rwa [List.prefix_iff_eq_append.mp start, ← List.flatMap_cons] at whole

theorem Offers.single (message : Bytes) (before : Connection) :
    Offers message [offering before.transport.outgoing message] before (before.offered message) :=
  .cons (.nil _ _)

theorem Offers.sent {message : Bytes} {calls : List Transport.Call} {before after : Connection}
    (offers : Offers message calls before after) :
    after.transport.sent = before.transport.sent ++ calls.flatMap Transport.Call.sent := by
  rw [offers.unchanged, Transport.sent, Transport.sentBy_append, Transport.sent]
  simp [Transport.sentBy]

/-- The last call is the first one after which nothing is offered. -/
def Stops (calls : List Transport.Call) (fault : Fault) : Prop :=
  ∃ earlier last, calls = earlier ++ [last] ∧ (∀ call ∈ earlier, call.stop? = none) ∧
    last.stop? = some fault

theorem Stops.single {call : Transport.Call} {fault : Fault} (stop : call.stop? = some fault) :
    Stops [call] fault :=
  ⟨[], call, rfl, by simp, stop⟩

theorem Stops.cons {call : Transport.Call} (going : call.stop? = none) {calls : List Transport.Call}
    {fault : Fault} (stops : Stops calls fault) : Stops (call :: calls) fault := by
  rcases stops with ⟨earlier, last, rfl, before, stop⟩
  refine ⟨call :: earlier, last, rfl, ?_, stop⟩
  intro other among
  rcases List.mem_cons.mp among with rfl | among
  · exact going
  · exact before other among

/-- How writing everything ends: with the whole message, or with the reason for which the calls
stop. -/
def Ends (message : Bytes) (calls : List Transport.Call) (after : Connection)
    (result : EStateM.Result Fault Connection Unit) : Prop :=
  result = .ok () after ∧ calls.flatMap Transport.Call.sent = message ∨
    ∃ fault, result = .error fault after ∧ calls.flatMap Transport.Call.sent ≠ message ∧
      Stops calls fault

theorem Ends.cons {message rest : Bytes} {call : Transport.Call} (going : call.stop? = none)
    (whole : call.sent ++ rest = message) {calls : List Transport.Call} {after : Connection}
    {result : EStateM.Result Fault Connection Unit} (ends : Ends rest calls after result) :
    Ends message (call :: calls) after result := by
  subst whole
  rcases ends with ⟨done, all⟩ | ⟨fault, failed, cut, stops⟩
  · exact Or.inl ⟨done, by rw [List.flatMap_cons, all]⟩
  · refine Or.inr ⟨fault, failed, ?_, .cons going stops⟩
    rw [List.flatMap_cons]
    exact fun same => cut (List.append_cancel_left same)

/-- A connection whose first write takes three bytes and whose second one is interrupted. -/
def faltering : Connection :=
  .ofTransport ⟨"", [], [.accept 3, .fault (.plain .interrupted)], [], [], [], .stopped default, []⟩

/-- A source that comes to its end is written like a body that has been there from the beginning, in
whatever chunks it comes. A source that fails costs the connection nothing, and whatever is asked of
it next is not affected. -/
theorem source_is_drained_first {before : Connection} (isOpen : before.closed = false)
    (endpoint : String) (source : Source) :
    (source.outlook.stop = none →
        writeFramedFrom endpoint (before, source) =
          beside source.outlook.later (writeFramed endpoint source.outlook.data before)) ∧
      ∀ fault, source.outlook.stop = some fault →
        writeFramedFrom endpoint (before, source) =
            .error (.io fault) (before, source.outlook.later) ∧
          ∀ (earlier : List Operation) (next : Operation),
            next.perform (undergo (.writeFramedFrom endpoint source :: earlier) before) =
              next.perform (undergo earlier before) := by
  have drained := writeFramedFrom_of_open isOpen endpoint source
  refine ⟨?_, ?_⟩
  · intro ended
    rw [drained, ended]
  · intro fault stopped
    rw [stopped] at drained
    refine ⟨drained, ?_⟩
    intro earlier next
    have untouched : ((Operation.writeFramedFrom endpoint source).perform before).after =
        before := by
      simp only [Operation.perform, drained]
    rw [undergo, untouched]

/-- A source that brings a byte, is interrupted, and fails. -/
theorem failing_source_sends_nothing :
    let before := bringing [.data 7 []]
    let source : Source :=
      [.data 1 [], .fault (.plain .interrupted), .fault (.plain .connectionReset)]
    before.closed = false ∧
      writeFramedFrom "a" (before, source) = .error (.io (.plain .connectionReset)) (before, []) ∧
      writeFramedFrom "a" (before, [.data 1 [], .fault (.plain .interrupted), .data 2 [3]]) =
        beside [] (writeFramed "a" [1, 2, 3] before) := by
  intro before source
  have isOpen : before.closed = false := rfl
  have failing := (source_is_drained_first isOpen "a" source).2 (.plain .connectionReset) rfl
  exact ⟨isOpen, failing.1, (source_is_drained_first isOpen "a" _).1 rfl⟩

end Connection

end Switchboard
