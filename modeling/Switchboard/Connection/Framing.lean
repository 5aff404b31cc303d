import Switchboard.Connection
import Switchboard.Header.Codec
import Switchboard.Header.Reading
import Switchboard.Text.Utf8

/-!
# Messages on a connection

A message is a header and, for a request or an answer, a body whose length the header announces.
Header and body leave in one piece, so nothing can come between them. On the way in the header is
read first and then exactly the announced number of bytes, whatever the sizes in which they arrive.

A stream that ends inside a header is a peer that went away. One that ends inside a body is a body
cut short, and the error says how much of it came. A body over the limit is refused before anything
of it is read.

The last section says what reading and writing messages leave of the connection's budget. It is what
makes serving a connection come to an end.
-/

namespace Switchboard.Connection

variable {α : Type}

/-- An operation whose faults are reported as errors. -/
def orError (action : EStateM Fault Connection α) : EStateM Error Connection α :=
  EStateM.adaptExcept Error.io action

/-! ## Writing -/

/-- Writes a message that is already in its wire form; returns its length. -/
def writeMessage (message : Bytes) : EStateM Error Connection Nat := do
  ensureOpen
  orError (timedWriter.writeAll message)
  pure message.length

def writeHeader (header : Header) : EStateM Error Connection Nat :=
  writeMessage header.encode

/-- A body in its frame: the header that announces it, and the body itself. -/
def frame (endpoint : String) (body : Bytes) : Bytes :=
  (Header.forRequest endpoint (UInt64.ofNat body.length)).encode ++ body

def writeFramed (endpoint : String) (body : Bytes) : EStateM Error Connection Nat :=
  writeMessage (frame endpoint body)

def writeFramedText (endpoint text : String) : EStateM Error Connection Nat :=
  writeFramed endpoint (Utf8.encode text)

/-- Writes everything that a source has as one body. The source stands beside the connection; if it
fails, nothing is written. -/
def writeFramedFrom (endpoint : String) : EStateM Error (Connection × Source) Nat :=
  fun (connection, source) =>
    match ensureOpen connection with
    | .error error connection => .error error (connection, source)
    | .ok () connection =>
        let drained := Source.reader.drain (.withCapacity 0) source
        match drained.fault with
        | some fault => .error (.io fault) (connection, drained.state)
        | none =>
            match writeFramed endpoint drained.data connection with
            | .ok count connection => .ok count (connection, drained.state)
            | .error error connection => .error error (connection, drained.state)

/-! ## Reading -/

def readHeader : EStateM Error Connection Header := do
  ensureOpen
  let bytes ← EStateM.adaptExcept Header.interrupted (timedReader.readExact Header.width)
  match Header.decode bytes with
  | .ok header => pure header
  | .error error => throw error

/-- The room that is made for a body before any of it has arrived. -/
def bodyRoom : Nat := 65536

/-- Refuses a body that is too long for the connection. -/
def ensureWithinLimit (size : UInt64) : EStateM Error Connection Unit := fun connection =>
  match connection.bodyLimit with
  | none => .ok () connection
  | some limit =>
      if limit < size then .error (.bodyTooLarge size limit) connection else .ok () connection

/-- Reads exactly the bytes that are owed, or says how many came. -/
def readOwed (size : UInt64) : EStateM Error Connection Bytes := fun connection =>
  let drained :=
    timedReader.limited.drain (.withCapacity (min size.toNat bodyRoom)) (connection, size.toNat)
  match drained.fault with
  | some fault => .error (.io fault) drained.state.1
  | none =>
      if drained.data.length < size.toNat then
        .error (.truncatedBody size (UInt64.ofNat drained.data.length)) drained.state.1
      else .ok drained.data drained.state.1

def readBody (header : Header) : EStateM Error Connection Bytes := do
  ensureOpen
  ensureWithinLimit header.bodySize
  readOwed header.bodySize

def readFramed : EStateM Error Connection (Header × Bytes) := do
  let header ← readHeader
  let body ← readBody header
  pure (header, body)

def readFramedText : EStateM Error Connection (Header × String) := do
  let (header, body) ← readFramed
  pure (header, Utf8.decode body)

/-! ## What messages leave of the budget -/

theorem length_frame (endpoint : String) (body : Bytes) :
    (frame endpoint body).length = Header.width + body.length := by
  simp [frame]

def settled {ε : Type} : EStateM.Result ε Connection α → Connection
  | .ok _ connection => connection
  | .error _ connection => connection

/-- An operation that never adds to the budget. -/
def Thrifty {ε : Type} (action : EStateM ε Connection α) : Prop :=
  ∀ before, (settled (action before)).budget ≤ before.budget

theorem Thrifty.pure {ε : Type} (value : α) : Thrifty (Pure.pure value : EStateM ε Connection α) :=
  fun _ => Nat.le_refl _

theorem Thrifty.bind {ε β : Type} {first : EStateM ε Connection α}
    {next : α → EStateM ε Connection β} (thriftyFirst : Thrifty first)
    (thriftyNext : ∀ value, Thrifty (next value)) : Thrifty (first >>= next) := by
  intro before
  have paidFirst := thriftyFirst before
  simp only [Bind.bind, EStateM.bind]
  cases step : first before with
  | ok value middle =>
      rw [step] at paidFirst
      exact Nat.le_trans (thriftyNext value middle) paidFirst
  | error error after =>
      rw [step] at paidFirst
      exact paidFirst

theorem Thrifty.adapt {ε ε' : Type} {action : EStateM ε Connection α} (thrifty : Thrifty action)
    (map : ε → ε') : Thrifty (EStateM.adaptExcept map action) := by
  intro before
  have paid := thrifty before
  simp only [EStateM.adaptExcept]
  cases step : action before with
  | ok value after =>
      rw [step] at paid
      exact paid
  | error error after =>
      rw [step] at paid
      exact paid

theorem thrifty_ensureOpen : Thrifty ensureOpen := by
  intro before
  unfold ensureOpen
  split <;> exact Nat.le_refl _

theorem thrifty_ensureWithinLimit (size : UInt64) : Thrifty (ensureWithinLimit size) := by
  intro before
  unfold ensureWithinLimit
  split
  · exact Nat.le_refl _
  · split <;> exact Nat.le_refl _

/-- A single write leaves what arrives alone. -/
theorem incoming_of_write {offered : Bytes} {before after : Transport} {taken : Nat}
    (done : Transport.write offered before = .ok taken after) : after.budget = before.budget := by
  simp only [Transport.write] at done
  split at done <;> cases done <;> rfl

theorem incoming_of_write_error {offered : Bytes} {before after : Transport} {fault : Fault}
    (failed : Transport.write offered before = .error fault after) :
    after.budget = before.budget := by
  simp only [Transport.write] at failed
  split at failed <;> cases failed
  rfl

theorem budget_of_timedWrite_ok {offered : Bytes} {before after : Connection} {taken : Nat}
    (done : timedWrite offered before = .ok taken after) : after.budget ≤ before.budget := by
  simp only [timedWrite, Bind.bind, EStateM.bind] at done
  split at done
  · next armed step =>
    have first := (budget_of_arm_ok step).1
    simp only [onTransport] at done
    split at done
    · next inner =>
      cases done
      have second := incoming_of_write inner
      simp only [budget] at *
      omega
    · cases done
  · cases done

theorem budget_of_timedWrite_error {offered : Bytes} {before after : Connection} {fault : Fault}
    (failed : timedWrite offered before = .error fault after) : after.budget ≤ before.budget := by
  simp only [timedWrite, Bind.bind, EStateM.bind] at failed
  split at failed
  · next armed step =>
    have first := (budget_of_arm_ok step).1
    simp only [onTransport] at failed
    split at failed
    · cases failed
    · next inner =>
      cases failed
      have second := incoming_of_write_error inner
      simp only [budget] at *
      omega
  · next step =>
    cases failed
    exact budget_of_arm_error step

/-- Writing never adds to the budget. -/
theorem thrifty_writeAll (offered : Bytes) : Thrifty (timedWriter.writeAll offered) := by
  intro before
  have rel := @Writer.writeAll_rel Connection timedWriter
    (fun earlier later => later.budget ≤ earlier.budget)
    (fun _ => Nat.le_refl _) (fun first second => Nat.le_trans second first)
    budget_of_timedWrite_ok budget_of_timedWrite_error offered before
  cases step : timedWriter.writeAll offered before with
  | ok value after => exact rel.1 step
  | error fault after => exact rel.2 step

theorem thrifty_writeFramed (endpoint : String) (body : Bytes) :
    Thrifty (writeFramed endpoint body) :=
  thrifty_ensureOpen.bind fun _ => ((thrifty_writeAll _).adapt _).bind fun _ => .pure _

/-- Reading a body never adds to the budget. -/
theorem thrifty_readBody (header : Header) : Thrifty (readBody header) := by
  refine thrifty_ensureOpen.bind fun _ => (thrifty_ensureWithinLimit _).bind fun _ => ?_
  intro before
  have paid := Nat.le_trans (Nat.le_add_right _ _)
    (Reader.drain_state timedReader.limited
      (.withCapacity (min header.bodySize.toNat bodyRoom)) (before, header.bodySize.toNat))
  unfold readOwed
  dsimp only
  split
  · exact paid
  · split <;> exact paid

/-- A header that was read is paid for. -/
theorem budget_of_readHeader_ok {before after : Connection} {header : Header}
    (done : readHeader before = .ok header after) :
    after.budget + Header.width ≤ before.budget := by
  simp only [readHeader, Bind.bind, EStateM.bind] at done
  cases opening : ensureOpen before with
  | error error refused =>
      rw [opening] at done
      cases done
  | ok _ opened =>
      have same : opened = before := by
        unfold ensureOpen at opening
        split at opening <;> cases opening
        rfl
      subst same
      rw [opening] at done
      simp only [EStateM.adaptExcept] at done
      cases reading : timedReader.readExact Header.width opened with
      | error fault stopped =>
          rw [reading] at done
          cases done
      | ok bytes read =>
          have paid := (Reader.readExact_ok reading).2
          rw [reading] at done
          dsimp only at done
          cases decoding : Header.decode bytes with
          | error error =>
              rw [decoding] at done
              cases done
          | ok decoded =>
              rw [decoding] at done
              cases done
              exact paid

/-- So is a message. -/
theorem budget_of_readFramedText_ok {before after : Connection} {header : Header} {text : String}
    (done : readFramedText before = .ok (header, text) after) :
    after.budget + Header.width ≤ before.budget := by
  simp only [readFramedText, readFramed, Bind.bind, EStateM.bind] at done
  cases reading : readHeader before with
  | error error stopped =>
      rw [reading] at done
      cases done
  | ok read middle =>
      rw [reading] at done
      have spent := budget_of_readHeader_ok reading
      have kept := thrifty_readBody read middle
      dsimp only at done
      cases body : readBody read middle with
      | error error stopped =>
          rw [body] at done
          cases done
      | ok bytes last =>
          rw [body] at done kept
          cases done
          simp only [settled] at kept
          omega

/-- Writing a text costs nothing back. -/
theorem budget_of_writeFramedText_ok {endpoint text : String} {before after : Connection}
    {count : Nat} (done : writeFramedText endpoint text before = .ok count after) :
    after.budget ≤ before.budget := by
  have kept := thrifty_writeFramed endpoint (Utf8.encode text) before
  unfold writeFramedText at done
  rw [done] at kept
  exact kept

end Switchboard.Connection
