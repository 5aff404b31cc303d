import Switchboard.Proofs.Connection.Bodies
import Switchboard.Proofs.Connection.Observations
import Switchboard.Proofs.Connection.Punctual

/-!
# After the deadline

Once the deadline of a connection has passed, everything that would need the transport looks at the
clock and times out. Nothing is read, written or set up (`Waited`). Whatever gets by without the
transport still works: a body of no bytes, a body that is refused for its length.

An operation that has found the deadline reached is enough for that: with a clock that never goes
back, the connection is late for every operation that comes behind it (`later_operations_time_out`).

So what was asked in the meantime leaves no trace. As soon as the deadline is cleared, the
connection cannot be told from one of which nothing was asked (`Traceless`).
-/

namespace Switchboard.Connection

/-- The operation cannot do without the transport on an open connection that reads bodies up to a
limit. -/
def Operation.Needs (limit : Option UInt64) : Operation → Prop
  | readBody header => header.bodySize ≠ 0 ∧ ∀ most, limit = some most → header.bodySize ≤ most
  | writeFramedFrom _ source => source.outlook.stop = none
  | readExact count => count ≠ 0
  | writeAll offered => offered ≠ []
  | setDeadline _ | clearDeadline | limitBodies _ | flush | close => False
  | _ => True

/-- The connection after a look at its clock. -/
def consulted (before : Connection) : Connection :=
  { before with transport := before.transport.readClock.2 }

/-- An open connection whose deadline has passed for good. -/
structure Overdue (deadline : Instant) (connection : Connection) : Prop where
  isOpen : connection.closed = false
  dated : connection.deadline = some deadline
  steady : connection.transport.clock.Steady
  passed : deadline.nanos ≤ connection.transport.clock.now.nanos

/-- The operation looks at the clock, once, and times out. -/
structure TimesOut (operation : Operation) (before : Connection) : Prop where
  report : (operation.perform before).report = operation.faulting .pastDeadline
  after : (operation.perform before).after = before.consulted

theorem timesOut_ofError {α : Type} {operation : Operation} {action : EStateM Error Connection α}
    {before : Connection} (failed : action before = .error (.io .pastDeadline) before.consulted)
    (performs : operation.perform before = .ofError (action before))
    (reports : operation.faulting .pastDeadline = .failed (.io .pastDeadline)) :
    TimesOut operation before := by
  rw [failed] at performs
  constructor
  · rw [performs, reports]
    rfl
  · rw [performs]
    rfl

theorem timesOut_ofFault {α : Type} {operation : Operation} {action : EStateM Fault Connection α}
    {before : Connection} (failed : action before = .error .pastDeadline before.consulted)
    (performs : operation.perform before = .ofFault (action before))
    (reports : operation.faulting .pastDeadline = .faulted .pastDeadline) :
    TimesOut operation before := by
  rw [failed] at performs
  constructor
  · rw [performs, reports]
    rfl
  · rw [performs]
    rfl

/-! ## What needs the transport -/

theorem encode_ne_nil (header : Header) : header.encode ≠ [] := by
  rw [← List.length_pos_iff, Header.length_encode]
  decide

theorem frame_ne_nil (endpoint : String) (body : Bytes) : frame endpoint body ≠ [] := by
  rw [← List.length_pos_iff, length_frame]
  exact Nat.add_pos_left (by decide) _

namespace Overdue

variable {deadline : Instant} {before : Connection} (overdue : Overdue deadline before)

include overdue

theorem arm : arm before = .error .pastDeadline before.consulted := by
  rcases arm_cases before with ⟨untimed, _⟩ | ⟨_, timed, ⟨_, late⟩ | ⟨early, _⟩⟩
  · rw [overdue.dated] at untimed
    cases untimed
  · exact late
  · rw [overdue.dated, Option.some.injEq] at timed
    cases timed
    rw [(Instant.remaining_isZero_iff _ _).mpr overdue.passed] at early
    cases early

theorem timedRead (asked : Nat) :
    timedReader.read asked before = .error .pastDeadline before.consulted := by
  simp only [timedReader, Connection.timedRead, Bind.bind, EStateM.bind, overdue.arm]

theorem timedWrite (offered : Bytes) :
    timedWriter.write offered before = .error .pastDeadline before.consulted := by
  simp only [timedWriter, Connection.timedWrite, Bind.bind, EStateM.bind, overdue.arm]

theorem rawRead (asked : Nat) :
    rawReader.read asked before = .error .pastDeadline before.consulted := by
  simp only [rawReader, unlessClosed, overdue.isOpen, Bool.false_eq_true, if_false]
  exact overdue.timedRead asked

theorem rawWrite (offered : Bytes) :
    rawWriter.write offered before = .error .pastDeadline before.consulted := by
  simp only [rawWriter, unlessClosed, overdue.isOpen, Bool.false_eq_true, if_false]
  exact overdue.timedWrite offered

theorem writeMessage {message : Bytes} (nonempty : message ≠ []) :
    writeMessage message before = .error (.io .pastDeadline) before.consulted := by
  have late := Writer.writeAll_of_error nonempty (by decide) (overdue.timedWrite message)
  simp only [writeMessage_of_open overdue.isOpen, late]

theorem readHeader : readHeader before = .error (.io .pastDeadline) before.consulted := by
  have late : timedReader.readExact Header.width before = .error .pastDeadline before.consulted :=
    Reader.readExact_of_error (by decide) (by decide) (overdue.timedRead _)
  simp only [Connection.readHeader, Bind.bind, EStateM.bind, ensureOpen_of_open overdue.isOpen,
    EStateM.adaptExcept, late]
  rfl

theorem readOwed {size : UInt64} (positive : size ≠ 0) :
    readOwed size before = .error (.io .pastDeadline) before.consulted := by
  have owed : size.toNat ≠ 0 := fun none => positive (UInt64.toNat_inj.mp none)
  have late (asked : Nat) : timedReader.limited.read asked (before, size.toNat) =
      .error .pastDeadline (before.consulted, size.toNat) := by
    simp only [Reader.limited, if_neg owed, overdue.timedRead]
  have drained := Reader.drain_of_error (by decide)
    (late (Growth.withCapacity (min size.toNat bodyRoom)).offer)
  simp only [Connection.readOwed, drained]

theorem readBody {header : Header} (positive : header.bodySize ≠ 0)
    (within : ∀ most, before.bodyLimit = some most → header.bodySize ≤ most) :
    readBody header before = .error (.io .pastDeadline) before.consulted := by
  rw [readBody_of_within overdue.isOpen within, overdue.readOwed positive]

theorem readFramed : readFramed before = .error (.io .pastDeadline) before.consulted := by
  simp only [Connection.readFramed, Bind.bind, EStateM.bind, overdue.readHeader]

theorem readFramedText : readFramedText before = .error (.io .pastDeadline) before.consulted := by
  simp only [Connection.readFramedText, Bind.bind, EStateM.bind, overdue.readFramed]

theorem timesOut_of_needs {operation : Operation} (needs : operation.Needs before.bodyLimit) :
    TimesOut operation before := by
  cases operation with
  | writeHeader header => exact timesOut_ofError (overdue.writeMessage (encode_ne_nil _)) rfl rfl
  | writeFramed endpoint body =>
      exact timesOut_ofError (overdue.writeMessage (frame_ne_nil _ _)) rfl rfl
  | writeFramedText endpoint text =>
      exact timesOut_ofError (overdue.writeMessage (frame_ne_nil _ _)) rfl rfl
  | writeFramedFrom endpoint source =>
      -- The source is drained before the connection is asked for anything.
      have ended : source.outlook.stop = none := needs
      have late : writeFramed endpoint source.outlook.data before =
          .error (.io .pastDeadline) before.consulted :=
        overdue.writeMessage (frame_ne_nil _ _)
      have drained := writeFramedFrom_of_open overdue.isOpen endpoint source
      simp only [ended, late] at drained
      constructor
      · simp only [Operation.perform, drained, beside]
        rfl
      · simp only [Operation.perform, drained, beside]
  | readHeader => exact timesOut_ofError overdue.readHeader rfl rfl
  | readBody header => exact timesOut_ofError (overdue.readBody needs.1 needs.2) rfl rfl
  | readFramed => exact timesOut_ofError overdue.readFramed rfl rfl
  | readFramedText => exact timesOut_ofError overdue.readFramedText rfl rfl
  | read asked => exact timesOut_ofFault (overdue.rawRead asked) rfl rfl
  | readExact count =>
      exact timesOut_ofFault (Reader.readExact_of_error (by decide) needs
        (overdue.rawRead count)) rfl rfl
  | readToEnd =>
      have late : before.readToEnd = ⟨[], some .pastDeadline, before.consulted⟩ :=
        Reader.drain_of_error (by decide) (overdue.rawRead _)
      constructor
      · simp only [Operation.perform, late]
        rfl
      · simp only [Operation.perform, late]
  | write offered => exact timesOut_ofFault (overdue.rawWrite offered) rfl rfl
  | writeAll offered =>
      exact timesOut_ofFault (Writer.writeAll_of_error needs (by decide)
        (overdue.rawWrite offered)) rfl rfl
  | setDeadline | clearDeadline | limitBodies | flush | close => exact absurd needs not_false

/-! ## What transfers, but may not need the transport -/

theorem matching :
    Matching (.alone (· = before) fun fault after => fault = .pastDeadline ∧
      after = before.consulted)
    (.alone (· = before) fun error after => ∃ fault, error = .io fault ∧ fault = .pastDeadline ∧
      after = before.consulted) := by
  refine matching_alone ?_ ?_ ?_ ?_
  · rintro _ _ ⟨rfl, _⟩
    decide
  · rintro _ _ ⟨rfl, _⟩
    decide
  · rintro asked _ _ ⟨rfl, rfl⟩
    rw [show Connection.timedRead asked _ = _ from overdue.timedRead asked]
    exact .cut ⟨rfl, rfl⟩
  · rintro offered _ _ ⟨rfl, rfl⟩
    rw [show Connection.timedWrite offered _ = _ from overdue.timedWrite offered]
    exact .cut ⟨rfl, rfl⟩

/-- Whatever is to be transferred either leaves everything as it is or times out. -/
theorem timesOut_or {operation : Operation} (transfers : operation.Transfers) :
    (operation.perform before).after = before ∨ TimesOut operation before := by
  rcases overdue.matching.perform ⟨rfl, rfl⟩ transfers with
    ⟨_, _, same⟩ | ⟨fault, reports, rfl, after⟩
  · exact Or.inl same
  · exact Or.inr ⟨reports, after⟩

end Overdue

/-! ## How it is found out -/

/-- An operation that finds the deadline reached leaves an overdue connection behind, and so do the
ones that follow it, unless one of them closes it. -/
theorem overdue_of_seen {before : Connection} {deadline : Instant}
    (dated : before.deadline = some deadline) (steady : before.transport.clock.Steady)
    {operation : Operation} {between : List Operation}
    (undated : ∀ other ∈ operation :: between, ¬other.Redates) {now : Instant}
    (seen : .clock now ∈ operation.calls before) (passed : deadline.nanos ≤ now.nanos)
    (isOpen : (undergo (operation :: between) before).closed = false) :
    Overdue deadline (undergo (operation :: between) before) := by
  rcases undergo_undated undated before with ⟨same, paced⟩
  rcases List.forall_mem_cons.mp undated with ⟨first, later⟩
  have reached := passed_for_good steady first later seen passed
  exact ⟨isOpen, same.trans dated, steady.of_suffix paced.readings,
    reached _ List.mem_cons_self⟩

/-- Under a deadline, whatever needs the transport times out once an operation has found the
deadline reached, and all it does is to look at the clock. -/
theorem later_operations_time_out {before : Connection} {deadline : Instant}
    (dated : before.deadline = some deadline) (steady : before.transport.clock.Steady)
    {past between : List Operation} {operation next : Operation}
    (undated : ∀ other ∈ past ++ operation :: between, ¬other.Redates) {now : Instant}
    (seen : .clock now ∈ operation.calls (undergo past before))
    (passed : deadline.nanos ≤ now.nanos)
    (isOpen : (undergo (past ++ operation :: between) before).closed = false)
    (needs : next.Needs (undergo (past ++ operation :: between) before).bodyLimit) :
    TimesOut next (undergo (past ++ operation :: between) before) := by
  rcases List.forall_mem_append.mp undated with ⟨earlier, later⟩
  rcases undergo_undated earlier before with ⟨same, paced⟩
  rw [undergo_append] at isOpen needs ⊢
  have overdue := overdue_of_seen (same.trans dated) (steady.of_suffix paced.readings) later seen
    passed isOpen
  exact overdue.timesOut_of_needs needs

/-! ## A run after the deadline -/

/-- The connection after it was found late any number of times. Nothing else has changed. -/
def Waited (deadline : Instant) (before after : Connection) : Prop :=
  ∃ (clock : Clock) (looks : List Transport.Call),
    clock.readings <:+ before.transport.clock.readings ∧
    (∀ call ∈ looks, ∃ now, call = .clock now ∧ deadline.nanos ≤ now.nanos) ∧
      after = before.restaged clock (looks ++ before.transport.journal)

theorem Waited.refl (deadline : Instant) (connection : Connection) :
    Waited deadline connection connection :=
  ⟨connection.transport.clock, [], List.suffix_refl _, by simp, rfl⟩

theorem Waited.trans {deadline : Instant} {first second third : Connection}
    (early : Waited deadline first second) (late : Waited deadline second third) :
    Waited deadline first third := by
  rcases early with ⟨_, earlier, suffix, passed, rfl⟩
  rcases late with ⟨clock, later, shorter, passedLater, rfl⟩
  refine ⟨clock, later ++ earlier, shorter.trans suffix, ?_, ?_⟩
  · exact fun call among => (List.mem_append.mp among).elim (passedLater call) (passed call)
  · simp only [restaged, List.append_assoc]

theorem Overdue.waited_consulted {deadline : Instant} {before : Connection}
    (overdue : Overdue deadline before) :
    Waited deadline before before.consulted :=
  ⟨before.transport.clock.tick, [.clock before.transport.clock.now], Clock.readings_tick _,
    by simpa using overdue.passed, rfl⟩

/-- A connection that was late stays late. -/
theorem Overdue.of_waited {deadline : Instant} {before after : Connection}
    (overdue : Overdue deadline before) (waited : Waited deadline before after) :
    Overdue deadline after := by
  rcases waited with ⟨clock, _, suffix, _, rfl⟩
  have ahead : clock.now ∈ before.transport.clock.readings := suffix.subset List.mem_cons_self
  exact ⟨overdue.isOpen, overdue.dated, overdue.steady.of_suffix suffix,
    Nat.le_trans overdue.passed (overdue.steady.now_le ahead)⟩

theorem Overdue.waited_undergo {deadline : Instant} {before : Connection}
    (overdue : Overdue deadline before) {operations : List Operation}
    (transfers : ∀ operation ∈ operations, operation.Transfers) :
    Waited deadline before (undergo operations before) := by
  induction operations generalizing before with
  | nil => exact .refl _ _
  | cons operation later ih =>
      have first : Waited deadline before (operation.perform before).after := by
        rcases overdue.timesOut_or (transfers operation List.mem_cons_self) with same | late
        · rw [same]
          exact .refl _ _
        · rw [late.after]
          exact overdue.waited_consulted
      exact first.trans (ih (overdue.of_waited first) fun next among =>
        transfers next (List.mem_cons_of_mem _ among))

/-- What becomes of an operation after the deadline. -/
structure Futile (deadline : Instant) (operation : Operation) (before : Connection) : Prop where
  /-- At most it looks at the clock. -/
  calls : operation.calls before = [] ∨
    ∃ now, operation.calls before = [.clock now] ∧ deadline.nanos ≤ now.nanos
  late : operation.Needs before.bodyLimit →
    (operation.perform before).report = operation.faulting .pastDeadline
  empty : ∀ header, operation = .readBody header → header.bodySize = 0 →
    readBody header before = .ok [] before
  oversized : ∀ header most, operation = .readBody header → before.bodyLimit = some most →
    most < header.bodySize →
    readBody header before = .error (.bodyTooLarge header.bodySize most) before

/-- Operations after the deadline leave no trace. -/
structure Traceless (deadline : Instant) (before : Connection) (operations : List Operation) :
    Prop where
  futile : ∀ past operation rest, operations = past ++ operation :: rest →
    Futile deadline operation (undergo past before)
  waited : Waited deadline before (undergo operations before)
  /-- Once the deadline is cleared, whatever comes shows and takes the same as if nothing had been
  asked. If a deadline is set later, the same time has to have passed. -/
  forgotten : ∀ later clock,
    clock = (undergo operations before).transport.clock ∨
      (∀ deadline, .setDeadline deadline ∉ later) →
      observations (.clearDeadline :: later) (undergo operations before) =
          observations (.clearDeadline :: later) (before.restaged clock before.transport.journal) ∧
        (undergo (.clearDeadline :: later)
          (before.restaged clock before.transport.journal)).transport.incoming =
          (undergo (.clearDeadline :: later) (undergo operations before)).transport.incoming

theorem Overdue.futile {deadline : Instant} {before : Connection}
    (overdue : Overdue deadline before) {operation : Operation} (transfers : operation.Transfers) :
    Futile deadline operation before where
  calls := by
    rcases overdue.timesOut_or transfers with same | late
    · exact Or.inl (Operation.calls_eq (congrArg (·.transport.journal) same))
    · exact Or.inr ⟨before.transport.clock.now,
        Operation.calls_eq (congrArg (·.transport.journal) late.after), overdue.passed⟩
  late needs := (overdue.timesOut_of_needs needs).report
  empty := by
    rintro header rfl none
    have within : ∀ most, before.bodyLimit = some most → header.bodySize ≤ most := by
      intro most _
      rw [none]
      exact UInt64.zero_le
    rw [readBody_of_within overdue.isOpen within, none, readOwed_zero]
  oversized := by
    rintro header most rfl limited long
    exact readBody_of_over overdue.isOpen limited long

/-- Whatever is asked of a connection after its deadline leaves it alone, whether it times out or
gets by without the transport. When the deadline is cleared, it is as if nothing had been asked. -/
theorem overdue_leaves_no_trace {deadline : Instant} {before : Connection}
    (overdue : Overdue deadline before) {operations : List Operation}
    (transfers : ∀ operation ∈ operations, operation.Transfers) :
    Traceless deadline before operations := by
  have waited := overdue.waited_undergo transfers
  refine ⟨?_, waited, ?_⟩
  · rintro past operation rest rfl
    rcases List.forall_mem_append.mp transfers with ⟨earlier, later⟩
    exact (overdue.of_waited (overdue.waited_undergo earlier)).futile
      (later operation List.mem_cons_self)
  · intro later clock dates
    -- Without its deadline the connection shows neither its past nor its clock, so both may be set
    -- back.
    have shown :=
      observations_of_clearing (overdue.of_waited waited).isOpen before.transport.journal dates
    rcases waited with ⟨_, _, _, _, same⟩
    have fresh : (undergo operations before).restaged clock before.transport.journal =
        before.restaged clock before.transport.journal := by
      rw [same]
      rfl
    rwa [fresh] at shown

/-- A connection whose deadline has passed, with two bytes to be read. -/
def expired : Connection :=
  { ofTransport
      ⟨"peer", [.data 7 [8]], [], [], [], [],
        ⟨⟨2, by decide⟩, [⟨3, by decide⟩, ⟨4, by decide⟩]⟩, []⟩ with
    deadline := some ⟨2, by decide⟩ }

theorem late_header_leaves_bytes :
    let operations := [.readHeader, .readBody (.forRequest "a" 0), .write [1]]
    Overdue ⟨2, by decide⟩ expired ∧ (∀ operation ∈ operations, operation.Transfers) ∧
      Traceless ⟨2, by decide⟩ expired operations ∧
      (observations [.clearDeadline, .read 2] (undergo operations expired)).map (·.yield) =
        [none, some (.bytes [7, 8])] := by
  intro operations
  have steady : expired.transport.clock.Steady := by
    simp [expired, ofTransport, Clock.Steady, Clock.readings]
  have overdue : Overdue ⟨2, by decide⟩ expired := ⟨rfl, rfl, steady, Nat.le_refl 2⟩
  have transfers : ∀ operation ∈ operations, operation.Transfers := by
    simp only [operations, List.forall_mem_cons]
    exact ⟨trivial, trivial, trivial, by simp⟩
  have traceless := overdue_leaves_no_trace overdue transfers
  refine ⟨overdue, transfers, traceless, ?_⟩
  rw [(traceless.forgotten [.read 2] expired.transport.clock (Or.inr (by simp))).1]
  rfl

end Switchboard.Connection
