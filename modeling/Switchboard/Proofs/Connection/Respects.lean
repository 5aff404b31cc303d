import Switchboard.Proofs.Connection.Matching

/-!
# Relations that every operation respects

Whatever a connection is asked for, it asks a few things of its transport: to read the clock, to set
a time limit, to read, and to write. Each of these is entered in the journal and changes little else
(`Entered`). A relation between the connection before and the connection after that is reflexive and
transitive and that none of these breaks (`Unbroken`) is respected by every message, however it
ends.
-/

namespace Switchboard

namespace Transport

/-- The call moves bytes, or tries to. -/
def Call.Asks : Call → Prop
  | .read .. | .write .. => True
  | _ => False

end Transport

namespace Connection

/-! ## Single calls -/

/-- The connection after one call of its transport, other than a look at the clock. -/
structure Entered (call : Transport.Call) (before after : Connection) : Prop where
  journal : after.transport.journal = call :: before.transport.journal
  clock : after.transport.clock = before.transport.clock
  deadline : after.deadline = before.deadline
  closed : after.closed = before.closed
  shutdownFaults : after.transport.shutdownFaults = before.transport.shutdownFaults

theorem entered_read (asked : Nat) (before : Connection) :
    ∃ call : Transport.Call, call.Asks ∧
      Entered call before (settled (onTransport (Transport.read asked) before)) := by
  simp only [onTransport, Transport.read]
  cases before.transport.incoming.read asked with
  | ok data rest => exact ⟨.read asked (.ok data), trivial, rfl, rfl, rfl, rfl, rfl⟩
  | error fault rest => exact ⟨.read asked (.error fault), trivial, rfl, rfl, rfl, rfl, rfl⟩

theorem entered_write (offered : Bytes) (before : Connection) :
    ∃ call : Transport.Call, call.Asks ∧
      Entered call before (settled (onTransport (Transport.write offered) before)) := by
  simp only [onTransport, Transport.write]
  rcases before.transport.outgoing with _ | ⟨count | fault, later⟩
  · exact ⟨.write offered (.ok offered.length), trivial, rfl, rfl, rfl, rfl, rfl⟩
  · exact ⟨.write offered (.ok (min count offered.length)), trivial, rfl, rfl, rfl, rfl, rfl⟩
  · exact ⟨.write offered (.error fault), trivial, rfl, rfl, rfl, rfl, rfl⟩

theorem entered_setTimeout (limit : Option Duration) (before : Connection) :
    ∃ fault, Entered (.setTimeout limit fault) before
      (settled (onTransport (Transport.setTimeout limit) before)) := by
  simp only [onTransport, Transport.setTimeout]
  cases before.transport.timeoutFaults.head?.join with
  | none => exact ⟨none, rfl, rfl, rfl, rfl, rfl⟩
  | some fault => exact ⟨some fault, rfl, rfl, rfl, rfl, rfl⟩

theorem entered_flush (before : Connection) :
    ∃ fault, Entered (.flush fault) before (settled (onTransport Transport.flush before)) := by
  simp only [onTransport, Transport.flush]
  cases before.transport.flushFaults.head?.join with
  | none => exact ⟨none, rfl, rfl, rfl, rfl, rfl⟩
  | some fault => exact ⟨some fault, rfl, rfl, rfl, rfl, rfl⟩

/-! ## Actions -/

/-- The relation holds between the connection before an action and after it, however the action
ends. -/
def Respects {α ε : Type} (rel : Connection → Connection → Prop) (action : EStateM ε Connection α) :
    Prop :=
  ∀ before, rel before (settled (action before))

section

variable {α ε : Type} {rel : Connection → Connection → Prop}

theorem Respects.ok {action : EStateM ε Connection α} (respects : Respects rel action)
    {before after : Connection} {value : α} (done : action before = .ok value after) :
    rel before after := by
  have kept := respects before
  rw [done] at kept
  exact kept

theorem Respects.error {action : EStateM ε Connection α} (respects : Respects rel action)
    {before after : Connection} {error : ε} (failed : action before = .error error after) :
    rel before after := by
  have kept := respects before
  rw [failed] at kept
  exact kept

end

/-- A run that is compared with itself only has to keep what is said about it. -/
theorem agree_alone {α ε : Type} {holds : Connection → Prop} {cut : ε → Connection → Prop}
    {result : EStateM.Result ε Connection α} (kept : holds (settled result)) :
    (Comparison.alone holds cut).Agree result result := by
  cases result with
  | ok value after => exact .ok ⟨rfl, kept⟩
  | error error after => exact .error ⟨rfl, kept⟩

/-- A relation that nothing breaks which messages ask of a transport. -/
structure Unbroken (rel : Connection → Connection → Prop) : Prop where
  refl : ∀ connection, rel connection connection
  trans : ∀ {first second third}, rel first second → rel second third → rel first third
  readClock : ∀ connection : Connection,
    rel connection { connection with transport := connection.transport.readClock.2 }
  setTimeout : ∀ limit, Respects rel (onTransport (Transport.setTimeout limit))
  read : ∀ asked, Respects rel (onTransport (Transport.read asked))
  write : ∀ offered, Respects rel (onTransport (Transport.write offered))

namespace Unbroken

variable {α β ε : Type} {rel : Connection → Connection → Prop} (unbroken : Unbroken rel)

include unbroken

theorem bind {first : EStateM ε Connection α} {next : α → EStateM ε Connection β}
    (early : Respects rel first) (late : ∀ value, Respects rel (next value)) :
    Respects rel (first >>= next) := by
  intro before
  simp only [Bind.bind, EStateM.bind]
  cases step : first before with
  | ok value middle => exact unbroken.trans (early.ok step) (late value middle)
  | error error after => exact early.error step

theorem unlessClosed {action : EStateM Fault Connection α} (respects : Respects rel action) :
    Respects rel (unlessClosed action) := by
  intro before
  unfold Connection.unlessClosed
  split
  · exact unbroken.refl _
  · exact respects before

theorem arm : Respects rel arm := by
  intro before
  rcases arm_cases before with ⟨_, idle⟩ | ⟨deadline, _, ⟨_, late⟩ | ⟨_, set⟩⟩
  · rw [idle]
    exact unbroken.refl _
  · rw [late]
    exact unbroken.readClock before
  · rw [set]
    exact unbroken.trans (unbroken.readClock before) (unbroken.setTimeout _ _)

theorem mirrors {action : EStateM ε Connection α} (respects : Respects rel action)
    (start : Connection) {cut : ε → Connection → Prop} :
    (Comparison.alone (rel start) cut).Mirrors action action := by
  rintro before _ ⟨rfl, since⟩
  exact agree_alone (unbroken.trans since (respects before))

/-- The relation to the connection at the start is kept by every read and write. -/
theorem matching (start : Connection) :
    Matching (.alone (rel start) fun _ _ => False)
      (.alone (rel start) fun error _ => ∃ fault, error = .io fault ∧ False) :=
  matching_alone (fun never => absurd never not_false) (fun never => absurd never not_false)
    (fun asked => unbroken.mirrors (unbroken.bind unbroken.arm fun _ => unbroken.read asked) start)
    (fun offered => unbroken.mirrors
      (unbroken.bind unbroken.arm fun _ => unbroken.write offered) start)

theorem respects {action : EStateM ε Connection α} {cut : ε → Connection → Prop}
    (never : ∀ error left, ¬cut error left)
    (mirrors : ∀ start, (Comparison.alone (rel start) cut).Mirrors action action) :
    Respects rel action := by
  intro before
  cases step : action before with
  | ok value after => exact (mirrors before).alone_ok (unbroken.refl before) step
  | error error after =>
      exact ((mirrors before).alone_error (unbroken.refl before) step).resolve_right
        (never error after)

theorem writeMessage (message : Bytes) : Respects rel (writeMessage message) := by
  refine unbroken.respects ?_ fun start => (unbroken.matching start).writeMessage message
  rintro _ _ ⟨_, _, never⟩
  exact never

end Unbroken

/-- What reading and writing keep of a connection. -/
theorem unbroken_kept : Unbroken Kept where
  refl := .refl
  trans := .trans
  readClock connection := (armKept_readClock connection).toKept
  setTimeout limit connection := by
    rcases setTimeout_cases limit connection with ⟨after, kept, done | ⟨fault, _, failed⟩⟩
    · rw [done]
      exact kept.toKept
    · rw [failed]
      exact kept.toKept
  read asked before := by
    cases step : onTransport (Transport.read asked) before with
    | ok data after => exact (onTransport_read_ok step).1.toKept
    | error fault after => exact (onTransport_read_error step).1.toKept
  write offered before := by
    cases step : onTransport (Transport.write offered) before with
    | ok taken after => exact (onTransport_write_ok step).1.toKept
    | error fault after => exact (onTransport_write_error step).1.toKept

end Connection

end Switchboard
