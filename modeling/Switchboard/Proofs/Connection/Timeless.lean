import Switchboard.Proofs.Connection.Matching

/-!
# Deadlines that do not pass

A connection with a deadline looks at the clock before every read and write and gives its transport
a time limit. If the transport accepts these limits, and the deadline does not pass, then that is
all the difference a deadline makes. To say so, the connection is looked at without its deadline,
and without the clock and the time limits in its journal (`timeless`). Two connections that look the
same in this way do the same (`regardless`): everything that is asked of them brings the same and
leaves them looking the same, unless the deadline of the first one passes, and then the clock has
just shown that (`Lapsed`).

Everything that can be asked of a connection is of this kind, except for setting a deadline.
-/

namespace Switchboard

namespace Transport

variable {α : Type}

/-- A call that is only made on account of a deadline. -/
def Call.ofDeadline : Call → Bool
  | .clock _ => true
  | .setTimeout (some _) _ => true
  | _ => false

/-- The transport without its clock and its time limits. -/
def timeless (transport : Transport) : Transport :=
  { transport with
    timeoutFaults := []
    clock := .stopped default
    journal := transport.journal.filter fun call => !call.ofDeadline }

/-- Every time limit can be set. -/
def Obliging (transport : Transport) : Prop :=
  ∀ outcome ∈ transport.timeoutFaults, outcome = none

/-- An action for which neither the clock nor the time limits matter. -/
def Timeless (action : EStateM Fault Transport α) : Prop :=
  ∀ before,
    match action before with
    | .ok value after =>
        action before.timeless = .ok value after.timeless ∧
          after.timeoutFaults = before.timeoutFaults
    | .error fault after =>
        action before.timeless = .error fault after.timeless ∧
          after.timeoutFaults = before.timeoutFaults

theorem timeless_read (asked : Nat) : Timeless (read asked) := by
  intro before
  simp only [read, timeless]
  cases before.incoming.read asked with
  | ok data rest => exact ⟨rfl, rfl⟩
  | error fault rest => exact ⟨rfl, rfl⟩

theorem timeless_write (offered : Bytes) : Timeless (write offered) := by
  intro before
  simp only [write, timeless]
  rcases script : before.outgoing with _ | ⟨count | fault, later⟩
  · simp [enter, script, Call.ofDeadline]
  · exact ⟨rfl, rfl⟩
  · exact ⟨rfl, rfl⟩

theorem timeless_flush : Timeless flush := by
  intro before
  simp only [flush, conclude, timeless]
  cases before.flushFaults.head?.join with
  | none => exact ⟨rfl, rfl⟩
  | some fault => exact ⟨rfl, rfl⟩

theorem timeless_shutdown : Timeless shutdown := by
  intro before
  simp only [shutdown, conclude, timeless]
  cases before.shutdownFaults.head?.join with
  | none => exact ⟨rfl, rfl⟩
  | some fault => exact ⟨rfl, rfl⟩

theorem setTimeout_of_obliging {transport : Transport} (obliging : transport.Obliging)
    (limit : Option Duration) :
    setTimeout limit transport =
      .ok () { transport with
        timeoutFaults := transport.timeoutFaults.tail
        journal := .setTimeout limit none :: transport.journal } := by
  have accepted : transport.timeoutFaults.head?.join = none := by
    unfold Obliging at obliging
    cases script : transport.timeoutFaults with
    | nil => rfl
    | cons outcome later =>
        rw [script] at obliging
        rw [obliging outcome List.mem_cons_self]
        rfl
  simp only [setTimeout, accepted, conclude]

theorem obliging_tail {transport : Transport} (obliging : transport.Obliging) :
    ∀ outcome ∈ transport.timeoutFaults.tail, outcome = none :=
  fun outcome pending => obliging outcome (List.mem_of_mem_tail pending)

end Transport

namespace Connection

variable {ε α : Type}

/-- The connection without its deadline, its clock and its time limits. -/
def timeless (connection : Connection) : Connection :=
  { connection with transport := connection.transport.timeless, deadline := none }

/-- The clock has just shown that the deadline has passed. -/
def Lapsed (connection : Connection) : Prop :=
  ∃ deadline now earlier, connection.deadline = some deadline ∧
    connection.transport.journal = .clock now :: earlier ∧ deadline.nanos ≤ now.nanos

/-- The connections differ in nothing but the time, and the second one has no deadline. -/
structure Alike (timed free : Connection) : Prop where
  same : timed.timeless = free.timeless
  obliging : timed.transport.Obliging
  obligingFree : free.transport.Obliging
  undated : free.deadline = none

theorem Alike.closed {timed free : Connection} (alike : Alike timed free) :
    timed.closed = free.closed := by
  have same := congrArg Connection.closed alike.same
  exact same

theorem Alike.bodyLimit {timed free : Connection} (alike : Alike timed free) :
    timed.bodyLimit = free.bodyLimit := by
  have same := congrArg Connection.bodyLimit alike.same
  exact same

theorem Alike.transports {timed free : Connection} (alike : Alike timed free) :
    timed.transport.timeless = free.transport.timeless := by
  have same := congrArg Connection.transport alike.same
  exact same

theorem Alike.transport {timed free : Connection} (alike : Alike timed free)
    {left right : Transport} (same : left.timeless = right.timeless) (obliging : left.Obliging)
    (obligingFree : right.Obliging) :
    Alike { timed with transport := left } { free with transport := right } where
  same := by
    change { timed.timeless with transport := left.timeless } =
      { free.timeless with transport := right.timeless }
    rw [alike.same, same]
  obliging := obliging
  obligingFree := obligingFree
  undated := alike.undated

/-- Actions from connections that are alike end in the same way, or the deadline has passed. -/
def regardless (late : ε → Prop) : Comparison ε Connection where
  alike := Alike
  fails _ := Alike
  cut error after := late error ∧ after.Lapsed

theorem mirrors_adapt {ε' : Type} {late : ε → Prop} {late' : ε' → Prop} {map : ε → ε'}
    {first second : EStateM ε Connection α} (mirrors : (regardless late).Mirrors first second)
    (reports : ∀ error, late error → late' (map error)) :
    (regardless late').Mirrors (EStateM.adaptExcept map first) (EStateM.adaptExcept map second) :=
  mirrors.adapt id id id fun cut => ⟨reports _ cut.1, cut.2⟩

theorem mirrors_onTransport {late : Fault → Prop} {action : EStateM Fault Transport α}
    (timeless : Transport.Timeless action) :
    (regardless late).Mirrors (onTransport action) (onTransport action) := by
  intro timed free alike
  -- Both runs end as the one from what the transports have in common.
  have same := alike.transports
  have first := timeless timed.transport
  have second := timeless free.transport
  rw [same] at first
  have stays {before after : Transport} (obliging : before.Obliging)
      (unchanged : after.timeoutFaults = before.timeoutFaults) : after.Obliging := by
    rw [Transport.Obliging, unchanged]
    exact obliging
  simp only [onTransport]
  generalize action timed.transport = left, action free.transport = right at first second ⊢
  rcases left with ⟨value, left⟩ | ⟨fault, left⟩ <;>
    rcases right with ⟨value', right⟩ | ⟨fault', right⟩
  · have equal := first.1.symm.trans second.1
    rw [EStateM.Result.ok.injEq] at equal
    rw [equal.1]
    exact .ok (alike.transport equal.2 (stays alike.obliging first.2)
      (stays alike.obligingFree second.2))
  · cases first.1.symm.trans second.1
  · cases first.1.symm.trans second.1
  · have equal := first.1.symm.trans second.1
    rw [EStateM.Result.error.injEq] at equal
    rw [equal.1]
    exact .error
      (alike.transport equal.2 (stays alike.obliging first.2) (stays alike.obligingFree second.2))

/-! ## Reading and writing -/

/-- Arming a connection that has no deadline does nothing, and nothing is what it looks like
otherwise. -/
theorem mirrors_arm : (regardless (· = .pastDeadline)).Mirrors arm arm := by
  intro timed free alike
  rw [arm_of_untimed alike.undated]
  rcases arm_cases timed with ⟨_, idle⟩ | ⟨deadline, dated, ⟨reached, expired⟩ | ⟨_, set⟩⟩
  · rw [idle]
    exact .ok alike
  · rw [expired]
    exact .cut ⟨rfl, deadline, _, _, dated, rfl, (Instant.remaining_isZero_iff _ _).mp reached⟩
  · have obliging : timed.transport.readClock.2.Obliging := alike.obliging
    rw [set]
    simp only [onTransport, Transport.setTimeout_of_obliging obliging]
    exact .ok (alike.transport alike.transports (Transport.obliging_tail obliging)
      alike.obligingFree)

theorem mirrors_timedRead (asked : Nat) :
    (regardless (· = .pastDeadline)).Mirrors (timedRead asked) (timedRead asked) :=
  mirrors_arm.bind fun _ => mirrors_onTransport (Transport.timeless_read asked)

theorem mirrors_timedWrite (offered : Bytes) :
    (regardless (· = .pastDeadline)).Mirrors (timedWrite offered) (timedWrite offered) :=
  mirrors_arm.bind fun _ => mirrors_onTransport (Transport.timeless_write offered)

/-- A deadline that does not pass makes no difference to any message. -/
theorem matching_regardless :
    Matching (regardless (· = .pastDeadline)) (regardless (· = .io .pastDeadline)) where
  resumable := by
    refine ⟨Iff.rfl, ?_⟩
    rintro fault left ⟨rfl, _⟩
    decide
  alike_iff := Iff.rfl
  fails_iff := Iff.rfl
  cut_iff := by
    intro error left
    constructor
    · rintro ⟨rfl, lapsed⟩
      exact ⟨.pastDeadline, rfl, rfl, lapsed⟩
    · rintro ⟨_, rfl, rfl, lapsed⟩
      exact ⟨rfl, lapsed⟩
  unended := by
    rintro fault left ⟨rfl, _⟩
    decide
  closed := Alike.closed
  bodyLimit := Alike.bodyLimit
  timedRead := mirrors_timedRead
  timedWrite := mirrors_timedWrite

/-! ## Everything else -/

theorem mirrors_flush : (regardless (· = .pastDeadline)).Mirrors flush flush :=
  matching_regardless.unlessClosed (mirrors_onTransport Transport.timeless_flush)

theorem mirrors_close {late : Error → Prop} : (regardless late).Mirrors close close := by
  intro timed free alike
  simp only [close, alike.closed]
  split
  · exact .ok alike
  · have closed : Alike { timed with closed := true } { free with closed := true } :=
      ⟨congrArg (fun connection : Connection => { connection with closed := true }) alike.same,
        alike.obliging, alike.obligingFree, alike.undated⟩
    have agree : (regardless fun _ : Fault => False).Agree _ _ :=
      mirrors_onTransport Transport.timeless_shutdown closed
    generalize onTransport Transport.shutdown { timed with closed := true } = left,
      onTransport Transport.shutdown { free with closed := true } = right at agree ⊢
    cases agree with
    | ok alike => exact .ok alike
    | @error fault _ _ alike =>
        dsimp only
        split
        · exact .ok alike
        · exact .error alike
    | cut cut => exact absurd cut.1 not_false

theorem mirrors_clearDeadline {late : Error → Prop} :
    (regardless late).Mirrors clearDeadline clearDeadline := by
  intro timed free alike
  cases closed : free.closed with
  | true =>
      simp only [clearDeadline, ensureOpen_of_closed closed,
        ensureOpen_of_closed (alike.closed.trans closed)]
      exact .error alike
  | false =>
      simp only [clearDeadline, ensureOpen_of_open closed,
        ensureOpen_of_open (alike.closed.trans closed),
        EStateM.adaptExcept, onTransport, Transport.setTimeout_of_obliging alike.obliging,
        Transport.setTimeout_of_obliging alike.obligingFree]
      have lifted : Alike { timed with deadline := none } { free with deadline := none } :=
        ⟨alike.same, alike.obliging, alike.obligingFree, rfl⟩
      have same := congrArg (fun transport : Transport => { transport with
        journal := .setTimeout none none :: transport.journal }) alike.transports
      exact .ok (lifted.transport same (Transport.obliging_tail alike.obliging)
        (Transport.obliging_tail alike.obligingFree))

end Connection

end Switchboard
