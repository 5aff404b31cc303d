import Switchboard.Connection.Framing
import Switchboard.Proofs.Stream.Outlook

/-!
# What reading and writing leave of a connection

Reading and writing within the deadline keep most of a connection as it is. `Kept` lists what
neither of them changes, and what they can only use up: the scripts of time limits and the readings
of the clock. A read sends nothing, and a write takes nothing of what arrives.

A connection reads what arrives and fails with the faults that arrive. On its own account it is only
interrupted, or it refuses: then it has a deadline, and either the deadline has passed or the
transport could not be given a time limit (`Refuses`).

What was written is at any time the beginning of what was to be written, and after a success it is
all of it (`writeAll_cases`).
-/

namespace Switchboard

namespace Transport

/-- Setting a time limit does not fail for good. -/
def Settable (transport : Transport) : Prop :=
  ∀ fault, some fault ∈ transport.timeoutFaults → fault.isInterrupted = true

/-- Setting a time limit may fail for good, and this is the fault. -/
def Withholds (transport : Transport) (fault : Fault) : Prop :=
  some fault ∈ transport.timeoutFaults ∧ ¬fault.isInterrupted = true

theorem Settable.not_withholds {transport : Transport} (settable : transport.Settable)
    (fault : Fault) : ¬transport.Withholds fault := by
  rintro ⟨pending, lasting⟩
  exact lasting (settable fault pending)

/-- Every write takes something, if perhaps only after interruptions. -/
def Willing (transport : Transport) : Prop :=
  ∀ intake ∈ transport.outgoing,
    (∃ more, intake = .accept (more + 1)) ∨
      ∃ fault, intake = .fault fault ∧ fault.isInterrupted = true

@[simp]
theorem sentBy_cons (call : Call) (journal : List Call) :
    sentBy (call :: journal) = sentBy journal ++ call.sent := by
  simp [sentBy]

end Transport

theorem Clock.readings_tick (clock : Clock) : clock.tick.readings <:+ clock.readings := by
  rcases clock with ⟨now, _ | ⟨next, rest⟩⟩
  · exact List.suffix_refl _
  · exact List.suffix_cons _ _

namespace Clock.Steady

variable {clock : Clock} (steady : clock.Steady)

include steady

theorem of_suffix {later : Clock} (readings : later.readings <:+ clock.readings) : later.Steady :=
  List.Pairwise.sublist readings.sublist steady

theorem now_le {reading : Instant} (ahead : reading ∈ clock.readings) :
    clock.now.nanos ≤ reading.nanos := by
  rcases List.mem_cons.mp ahead with rfl | later
  · exact Nat.le_refl _
  · exact List.rel_of_pairwise_cons steady later

end Clock.Steady

namespace Connection

/-- What neither messages nor deadlines change, and what they only use up. -/
structure Held (before after : Connection) : Prop where
  dialled : after.dialled = before.dialled
  closed : after.closed = before.closed
  bodyLimit : after.bodyLimit = before.bodyLimit
  peer : after.transport.peer = before.transport.peer
  outgoing : after.transport.outgoing <:+ before.transport.outgoing
  timeoutFaults : after.transport.timeoutFaults <:+ before.transport.timeoutFaults
  readings : after.transport.clock.readings <:+ before.transport.clock.readings

/-- Reading and writing keep the deadline, too. -/
structure Kept (before after : Connection) : Prop extends Held before after where
  deadline : after.deadline = before.deadline

/-- Reading sends nothing. -/
structure ReadKept (before after : Connection) : Prop extends Kept before after where
  sent : after.transport.sent = before.transport.sent

/-- Writing takes nothing of what arrives. -/
structure WriteKept (before after : Connection) : Prop extends Kept before after where
  incoming : after.transport.incoming = before.transport.incoming

/-- Arming does neither. -/
structure ArmKept (before after : Connection) : Prop extends ReadKept before after where
  incoming : after.transport.incoming = before.transport.incoming

theorem Held.refl (connection : Connection) : Held connection connection :=
  ⟨rfl, rfl, rfl, rfl, List.suffix_refl _, List.suffix_refl _, List.suffix_refl _⟩

theorem Held.trans {first second third : Connection} (early : Held first second)
    (late : Held second third) : Held first third :=
  ⟨late.dialled.trans early.dialled, late.closed.trans early.closed,
    late.bodyLimit.trans early.bodyLimit, late.peer.trans early.peer,
    late.outgoing.trans early.outgoing, late.timeoutFaults.trans early.timeoutFaults,
    late.readings.trans early.readings⟩

theorem Kept.refl (connection : Connection) : Kept connection connection :=
  ⟨.refl _, rfl⟩

theorem Kept.trans {first second third : Connection} (early : Kept first second)
    (late : Kept second third) : Kept first third :=
  ⟨early.toHeld.trans late.toHeld, late.deadline.trans early.deadline⟩

/-- Whatever happens on the transport only has to use up its scripts. -/
theorem Kept.of_transport {connection : Connection} {transport : Transport}
    (peer : transport.peer = connection.transport.peer)
    (outgoing : transport.outgoing <:+ connection.transport.outgoing)
    (timeoutFaults : transport.timeoutFaults <:+ connection.transport.timeoutFaults)
    (readings : transport.clock.readings <:+ connection.transport.clock.readings) :
    Kept connection { connection with transport } :=
  ⟨⟨rfl, rfl, rfl, peer, outgoing, timeoutFaults, readings⟩, rfl⟩

theorem ReadKept.refl (connection : Connection) : ReadKept connection connection :=
  ⟨.refl _, rfl⟩

theorem ReadKept.trans {first second third : Connection} (early : ReadKept first second)
    (late : ReadKept second third) : ReadKept first third :=
  ⟨early.toKept.trans late.toKept, late.sent.trans early.sent⟩

theorem WriteKept.refl (connection : Connection) : WriteKept connection connection :=
  ⟨.refl _, rfl⟩

theorem WriteKept.trans {first second third : Connection} (early : WriteKept first second)
    (late : WriteKept second third) : WriteKept first third :=
  ⟨early.toKept.trans late.toKept, late.incoming.trans early.incoming⟩

theorem ArmKept.toWriteKept {before after : Connection} (kept : ArmKept before after) :
    WriteKept before after :=
  ⟨kept.toKept, kept.incoming⟩

theorem ArmKept.trans {first second third : Connection} (early : ArmKept first second)
    (late : ArmKept second third) : ArmKept first third :=
  ⟨early.toReadKept.trans late.toReadKept, late.incoming.trans early.incoming⟩

/-- The clock will show that the deadline has passed. -/
def Expires (connection : Connection) : Prop :=
  ∃ deadline, connection.deadline = some deadline ∧
    ∃ now ∈ connection.transport.clock.readings, deadline.nanos ≤ now.nanos

/-- Why a connection may refuse to read or write on its own account: its deadline has passed, or its
transport was not given a time limit. -/
def Refuses (connection : Connection) (fault : Fault) : Prop :=
  connection.deadline ≠ none ∧
    ((fault = .pastDeadline ∧ connection.Expires) ∨ connection.transport.Withholds fault)

/-- A connection without a deadline refuses nothing. -/
theorem not_refuses {connection : Connection} (untimed : connection.deadline = none)
    (fault : Fault) :
    ¬Refuses connection fault := by
  intro refuses
  exact refuses.1 untimed

theorem Held.withholds {before after : Connection} (held : Held before after) {fault : Fault}
    (withholds : after.transport.Withholds fault) : before.transport.Withholds fault :=
  ⟨held.timeoutFaults.subset withholds.1, withholds.2⟩

theorem Held.willing {before after : Connection} (held : Held before after)
    (willing : before.transport.Willing) : after.transport.Willing :=
  fun intake pending => willing intake (held.outgoing.subset pending)

theorem Kept.expires {before after : Connection} (kept : Kept before after)
    (expires : after.Expires) : before.Expires := by
  rcases expires with ⟨deadline, limited, now, reading, passed⟩
  exact ⟨deadline, kept.deadline.symm.trans limited, now, kept.readings.subset reading, passed⟩

/-- A refusal after some reading and writing is one that was to be expected before. -/
theorem Kept.refuses {before after : Connection} (kept : Kept before after) {fault : Fault}
    (refuses : Refuses after fault) : Refuses before fault := by
  rcases refuses with ⟨timed, late⟩
  rw [kept.deadline] at timed
  refine ⟨timed, ?_⟩
  rcases late with ⟨same, expires⟩ | withholds
  · exact Or.inl ⟨same, kept.expires expires⟩
  · exact Or.inr (kept.withholds withholds)

/-! ## Arming -/

theorem armKept_readClock (connection : Connection) :
    ArmKept connection { connection with transport := connection.transport.readClock.2 } := by
  refine ⟨⟨.of_transport rfl (List.suffix_refl _) (List.suffix_refl _) (Clock.readings_tick _), ?_⟩,
    rfl⟩
  simp [Transport.readClock, Transport.sent, Transport.Call.sent]

/-- Setting a time limit either succeeds or reports the fault that its script has next. -/
theorem setTimeout_cases (limit : Option Duration) (connection : Connection) :
    ∃ after, ArmKept connection after ∧
      (onTransport (Transport.setTimeout limit) connection = .ok () after ∨
        ∃ fault, some fault ∈ connection.transport.timeoutFaults ∧
          onTransport (Transport.setTimeout limit) connection = .error fault after) := by
  refine ⟨{ connection with transport := { connection.transport with
    timeoutFaults := connection.transport.timeoutFaults.tail
    journal := .setTimeout limit connection.transport.timeoutFaults.head?.join ::
      connection.transport.journal } }, ?_, ?_⟩
  · refine ⟨⟨.of_transport rfl (List.suffix_refl _) (List.tail_suffix _) (List.suffix_refl _), ?_⟩,
      rfl⟩
    simp [Transport.sent, Transport.Call.sent]
  · simp only [onTransport, Transport.setTimeout]
    rcases connection.transport.timeoutFaults with _ | ⟨_ | fault, later⟩
    · exact Or.inl rfl
    · exact Or.inl rfl
    · exact Or.inr ⟨fault, List.mem_cons_self, rfl⟩

theorem arm_of_untimed {connection : Connection} (untimed : connection.deadline = none) :
    arm connection = .ok () connection := by
  simp only [arm, untimed]

theorem timedRead_of_untimed {connection : Connection} (untimed : connection.deadline = none)
    (asked : Nat) : timedRead asked connection = onTransport (Transport.read asked) connection := by
  simp only [timedRead, Bind.bind, EStateM.bind, arm_of_untimed untimed]

theorem timedWrite_of_untimed {connection : Connection} (untimed : connection.deadline = none)
    (offered : Bytes) :
    timedWrite offered connection = onTransport (Transport.write offered) connection := by
  simp only [timedWrite, Bind.bind, EStateM.bind, arm_of_untimed untimed]

theorem arm_ok {before after : Connection} (done : arm before = .ok () after) :
    ArmKept before after := by
  rcases arm_cases before with ⟨_, idle⟩ | ⟨deadline, _, ⟨_, late⟩ | ⟨_, set⟩⟩
  · rw [idle] at done
    cases done
    exact ⟨.refl _, rfl⟩
  · rw [late] at done
    cases done
  · rw [set] at done
    rcases setTimeout_cases (some (deadline.remaining before.transport.clock.now))
      { before with transport := before.transport.readClock.2 } with
      ⟨_, kept, succeeded | ⟨fault, _, failed⟩⟩
    · rw [succeeded] at done
      cases done
      exact (armKept_readClock before).trans kept
    · rw [failed] at done
      cases done

/-- Arming fails with an interruption or as a refusal. -/
theorem arm_error {before after : Connection} {fault : Fault}
    (failed : arm before = .error fault after) :
    ArmKept before after ∧
      (fault.isInterrupted = true ∨ (¬fault.isInterrupted = true ∧ Refuses before fault)) := by
  rcases arm_cases before with ⟨_, idle⟩ | ⟨deadline, timed, ⟨reached, late⟩ | ⟨_, set⟩⟩
  · rw [idle] at failed
    cases failed
  · rw [late] at failed
    cases failed
    have passed := (Instant.remaining_isZero_iff _ _).mp reached
    have expires : before.Expires := ⟨deadline, timed, _, List.mem_cons_self, passed⟩
    refine ⟨armKept_readClock before, Or.inr ⟨by decide, ?_, Or.inl ⟨rfl, expires⟩⟩⟩
    simp [timed]
  · rw [set] at failed
    rcases setTimeout_cases (some (deadline.remaining before.transport.clock.now))
      { before with transport := before.transport.readClock.2 } with
      ⟨_, kept, succeeded | ⟨fault, pending, reported⟩⟩
    · rw [succeeded] at failed
      cases failed
    · rw [reported] at failed
      cases failed
      refine ⟨(armKept_readClock before).trans kept, ?_⟩
      by_cases passing : fault.isInterrupted = true
      · exact Or.inl passing
      · refine Or.inr ⟨passing, ?_, Or.inr ⟨pending, passing⟩⟩
        simp [timed]

/-! ## Reading -/

theorem onTransport_read_ok {asked : Nat} {before after : Connection} {data : Bytes}
    (done : onTransport (Transport.read asked) before = .ok data after) :
    ReadKept before after ∧
      before.transport.incoming.read asked = .ok data after.transport.incoming := by
  simp only [onTransport, Transport.read] at done
  cases step : before.transport.incoming.read asked with
  | error fault rest =>
      rw [step] at done
      cases done
  | ok data' rest =>
      rw [step] at done
      cases done
      refine
        ⟨⟨.of_transport rfl (List.suffix_refl _) (List.suffix_refl _) (List.suffix_refl _), ?_⟩,
        rfl⟩
      simp [Transport.sent, Transport.Call.sent]

theorem onTransport_read_error {asked : Nat} {before after : Connection} {fault : Fault}
    (failed : onTransport (Transport.read asked) before = .error fault after) :
    ReadKept before after ∧
      before.transport.incoming.read asked = .error fault after.transport.incoming := by
  simp only [onTransport, Transport.read] at failed
  cases step : before.transport.incoming.read asked with
  | ok data rest =>
      rw [step] at failed
      cases failed
  | error fault' rest =>
      rw [step] at failed
      cases failed
      refine
        ⟨⟨.of_transport rfl (List.suffix_refl _) (List.suffix_refl _) (List.suffix_refl _), ?_⟩,
        rfl⟩
      simp [Transport.sent, Transport.Call.sent]

/-- A connection reads what arrives. -/
theorem timedReader_tracks (start : Connection) :
    timedReader.Tracks (fun connection => connection.transport.incoming) (ReadKept start)
      (Refuses start) where
  ok := by
    intro asked before data after kept done
    simp only [timedReader, timedRead, bind, EStateM.bind] at done
    split at done
    · next armed step =>
      have arming := arm_ok step
      rcases onTransport_read_ok done with ⟨reading, same⟩
      rw [arming.incoming] at same
      exact ⟨kept.trans (arming.toReadKept.trans reading), same⟩
    · cases done
  error := by
    intro asked before fault after kept failed
    simp only [timedReader, timedRead, bind, EStateM.bind] at failed
    split at failed
    · next armed step =>
      have arming := arm_ok step
      rcases onTransport_read_error failed with ⟨reading, same⟩
      rw [arming.incoming] at same
      exact ⟨kept.trans (arming.toReadKept.trans reading), Or.inl same⟩
    · next step =>
      cases failed
      rcases arm_error step with ⟨arming, passing | ⟨quiet, refuses⟩⟩
      · exact ⟨kept.trans arming.toReadKept, Or.inr (Or.inl ⟨passing, arming.incoming⟩)⟩
      · exact ⟨kept.trans arming.toReadKept, Or.inr (Or.inr ⟨quiet, kept.toKept.refuses refuses⟩)⟩

/-! ## Writing -/

theorem onTransport_write_ok {offered : Bytes} {before after : Connection} {taken : Nat}
    (done : onTransport (Transport.write offered) before = .ok taken after) :
    WriteKept before after ∧ taken ≤ offered.length ∧
      after.transport.sent = before.transport.sent ++ offered.take taken ∧
      (before.transport.Willing → offered ≠ [] → 0 < taken) := by
  simp only [onTransport, Transport.write] at done
  cases script : before.transport.outgoing with
  | nil =>
      rw [script] at done
      cases done
      refine
        ⟨⟨.of_transport rfl (List.suffix_refl _) (List.suffix_refl _) (List.suffix_refl _), rfl⟩,
        Nat.le_refl _, ?_, fun _ nonempty => List.length_pos_iff.mpr nonempty⟩
      simp [Transport.sent, Transport.enter, Transport.Call.sent]
  | cons intake later =>
      cases intake with
      | fault fault =>
          rw [script] at done
          cases done
      | accept count =>
          rw [script] at done
          cases done
          have shorter : later <:+ before.transport.outgoing := by
            rw [script]
            exact List.suffix_cons _ _
          refine ⟨⟨.of_transport rfl shorter (List.suffix_refl _) (List.suffix_refl _), rfl⟩,
            Nat.min_le_right _ _, ?_, ?_⟩
          · simp [Transport.sent, Transport.Call.sent]
          · intro willing nonempty
            have positive := List.length_pos_iff.mpr nonempty
            have first : Transport.Intake.accept count ∈ before.transport.outgoing := by
              rw [script]
              exact List.mem_cons_self
            rcases willing _ first with ⟨more, same⟩ | ⟨fault, same, _⟩
            · cases same
              omega
            · cases same

theorem onTransport_write_error {offered : Bytes} {before after : Connection} {fault : Fault}
    (failed : onTransport (Transport.write offered) before = .error fault after) :
    WriteKept before after ∧ after.transport.sent = before.transport.sent ∧
      (before.transport.Willing → fault.isInterrupted = true) := by
  simp only [onTransport, Transport.write] at failed
  cases script : before.transport.outgoing with
  | nil =>
      rw [script] at failed
      cases failed
  | cons intake later =>
      cases intake with
      | accept count =>
          rw [script] at failed
          cases failed
      | fault fault' =>
          rw [script] at failed
          cases failed
          have shorter : later <:+ before.transport.outgoing := by
            rw [script]
            exact List.suffix_cons _ _
          refine
            ⟨⟨.of_transport rfl shorter (List.suffix_refl _) (List.suffix_refl _), rfl⟩, ?_, ?_⟩
          · simp [Transport.sent, Transport.Call.sent]
          · intro willing
            have first : Transport.Intake.fault fault ∈ before.transport.outgoing := by
              rw [script]
              exact List.mem_cons_self
            rcases willing _ first with ⟨more, same⟩ | ⟨fault', same, passing⟩
            · cases same
            · cases same
              exact passing

/-- A write sends what it takes. -/
theorem timedWrite_ok {offered : Bytes} {before after : Connection} {taken : Nat}
    (done : timedWrite offered before = .ok taken after) :
    WriteKept before after ∧ taken ≤ offered.length ∧
      after.transport.sent = before.transport.sent ++ offered.take taken ∧
      (before.transport.Willing → offered ≠ [] → 0 < taken) := by
  simp only [timedWrite, bind, EStateM.bind] at done
  split at done
  · next armed step =>
    have arming := arm_ok step
    rcases onTransport_write_ok done with ⟨writing, fits, sent, progress⟩
    refine ⟨arming.toWriteKept.trans writing, fits, ?_, ?_⟩
    · rw [sent, arming.sent]
    · intro willing nonempty
      exact progress (arming.toReadKept.willing willing) nonempty
  · cases done

/-- A write that fails has sent nothing. A willing transport is only ever interrupted. -/
theorem timedWrite_error {offered : Bytes} {before after : Connection} {fault : Fault}
    (failed : timedWrite offered before = .error fault after) :
    WriteKept before after ∧ after.transport.sent = before.transport.sent ∧
      (before.transport.Willing → ¬fault.isInterrupted = true → Refuses before fault) := by
  simp only [timedWrite, bind, EStateM.bind] at failed
  split at failed
  · next armed step =>
    have arming := arm_ok step
    rcases onTransport_write_error failed with ⟨writing, sent, passing⟩
    refine ⟨arming.toWriteKept.trans writing, ?_, ?_⟩
    · rw [sent, arming.sent]
    · intro willing quiet
      exact absurd (passing (arming.toReadKept.willing willing)) quiet
  · next step =>
    cases failed
    rcases arm_error step with ⟨arming, passing | ⟨_, refuses⟩⟩
    · exact ⟨arming.toWriteKept, arming.sent, fun _ quiet => absurd passing quiet⟩
    · exact ⟨arming.toWriteKept, arming.sent, fun _ _ => refuses⟩

/-- Writing everything either sends everything or stops after a strict beginning. -/
theorem writeAll_cases (offered : Bytes) (before : Connection) :
    (∃ after, timedWriter.writeAll offered before = .ok () after ∧ WriteKept before after ∧
        after.transport.sent = before.transport.sent ++ offered) ∨
      ∃ fault after count, timedWriter.writeAll offered before = .error fault after ∧
        WriteKept before after ∧ count < offered.length ∧
        after.transport.sent = before.transport.sent ++ offered.take count ∧
        (before.transport.Willing → Refuses before fault) := by
  fun_induction Writer.writeAll timedWriter offered before with
  | case1 before => exact Or.inl ⟨before, rfl, .refl _, by simp⟩
  | case2 before first more after step =>
      rcases timedWrite_ok step with ⟨kept, _, sent, progress⟩
      refine Or.inr ⟨.unwritten, after, 0, rfl, kept, Nat.zero_lt_succ _, sent, ?_⟩
      intro willing
      exact absurd (progress willing (List.cons_ne_nil _ _)) (Nat.lt_irrefl 0)
  | case3 before first more taken middle step ih =>
      rcases timedWrite_ok step with ⟨kept, fits, sent, _⟩
      have joined (count : Nat) : (first :: more).take (taken + 1) ++ (more.drop taken).take count =
          (first :: more).take (taken + 1 + count) :=
        List.take_add.symm
      rcases ih with ⟨after, done, later, all⟩ |
        ⟨fault, after, count, failed, later, short, part, refuses⟩
      · refine Or.inl ⟨after, done, kept.trans later, ?_⟩
        rw [all, sent, List.append_assoc, List.take_succ_cons, List.cons_append,
          List.take_append_drop]
      · refine Or.inr ⟨fault, after, taken + 1 + count, failed, kept.trans later, ?_, ?_, ?_⟩
        · rw [List.length_drop] at short
          rw [List.length_cons]
          omega
        · rw [part, sent, List.append_assoc, joined]
        · intro willing
          exact kept.toKept.refuses (refuses (kept.willing willing))
  | case4 before first more fault middle step interrupted ih =>
      rcases timedWrite_error step with ⟨kept, sent, _⟩
      rcases ih with ⟨after, done, later, all⟩ |
        ⟨fault, after, count, failed, later, short, part, refuses⟩
      · refine Or.inl ⟨after, done, kept.trans later, ?_⟩
        rw [all, sent]
      · refine Or.inr ⟨fault, after, count, failed, kept.trans later, short, ?_, ?_⟩
        · rw [part, sent]
        · intro willing
          exact kept.toKept.refuses (refuses (kept.willing willing))
  | case5 before first more fault after step quiet =>
      rcases timedWrite_error step with ⟨kept, sent, refuses⟩
      refine Or.inr ⟨fault, after, 0, rfl, kept, Nat.zero_lt_succ _, ?_, ?_⟩
      · simpa using sent
      · intro willing
        exact refuses willing quiet

/-! ## A connection on which nothing goes wrong -/

/-- A connection on which nothing goes wrong and at which some steps arrive. -/
def bringing (source : Source) : Connection :=
  .ofTransport ⟨"", source, [], [], [], [], .stopped default, []⟩

theorem willing_bringing (source : Source) : (bringing source).transport.Willing := by
  intro intake pending
  cases pending

end Connection

end Switchboard
