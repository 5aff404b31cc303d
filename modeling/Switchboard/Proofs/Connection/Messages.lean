import Switchboard.Proofs.Connection.Conduct
import Switchboard.Proofs.Header.Carried
import Switchboard.Proofs.Stream.Remainder

/-!
# Messages, whatever their chunks

What reading a header or a body brings depends only on the outlook of what arrives: the data up to
the first stop, and the stop. If there are enough data, exactly as many are taken as the message
has; otherwise all of them are, and the error says why there were not more. A message that was
written has been sent as a whole, and one that could not be written as a strict beginning.
-/

namespace Switchboard.Connection

open Source (Outlook)

/-- What arrives, up to the first stop. -/
def outlook (connection : Connection) : Outlook :=
  connection.transport.incoming.outlook

/-- Why a header is not complete. -/
def headerError (outlook : Outlook) : Error :=
  Header.interrupted (outlook.stop.getD .unfilled)

/-- Why a body of some size is not complete. -/
def bodyError (size : UInt64) (outlook : Outlook) : Error :=
  match outlook.stop with
  | none => .truncatedBody size (UInt64.ofNat outlook.data.length)
  | some fault => .io fault

theorem ensureOpen_of_open {connection : Connection} (isOpen : connection.closed = false) :
    ensureOpen connection = .ok () connection := by
  simp [ensureOpen, isOpen]

theorem ensureOpen_of_closed {connection : Connection} (closed : connection.closed = true) :
    ensureOpen connection = .error .connectionClosed connection := by
  simp [ensureOpen, closed]

theorem readHeader_of_closed {connection : Connection} (closed : connection.closed = true) :
    readHeader connection = .error .connectionClosed connection := by
  simp only [readHeader, Bind.bind, EStateM.bind, ensureOpen_of_closed closed]

theorem setDeadline_of_closed {connection : Connection} (closed : connection.closed = true)
    (deadline : Instant) :
    setDeadline deadline connection = .error .connectionClosed connection := by
  simp only [setDeadline, ensureOpen_of_closed closed]

theorem setDeadline_of_open {connection : Connection} (isOpen : connection.closed = false)
    (deadline : Instant) :
    setDeadline deadline connection = .ok () { connection with deadline := some deadline } := by
  simp only [setDeadline, ensureOpen_of_open isOpen]

/-- The connection without its deadline, after the transport was told to lift its time limit. -/
def relieved (before : Connection) : Connection :=
  { before with
    deadline := none
    transport := { before.transport with
      timeoutFaults := before.transport.timeoutFaults.tail
      journal := .setTimeout none before.transport.timeoutFaults.head?.join ::
        before.transport.journal } }

theorem clearDeadline_of_open {before : Connection} (isOpen : before.closed = false) :
    clearDeadline before =
      match before.transport.timeoutFaults.head?.join with
      | none => .ok () before.relieved
      | some fault => .error (.io fault) before.relieved := by
  simp only [clearDeadline, ensureOpen_of_open isOpen, EStateM.adaptExcept, onTransport,
    Transport.setTimeout, relieved]
  cases before.transport.timeoutFaults.head?.join with
  | none => rfl
  | some fault => rfl

theorem clearDeadline_of_closed {before : Connection} (closed : before.closed = true) :
    clearDeadline before = .error .connectionClosed before := by
  simp only [clearDeadline, ensureOpen_of_closed closed]

/-- Reading a header takes a header's bytes, or all data before the stop, or is refused. -/
theorem readHeader_cases {before : Connection} (isOpen : before.closed = false) :
    (∃ after, readHeader before = .ok (Header.ofBytes before.outlook.data) after ∧
        Header.width ≤ before.outlook.data.length ∧ ReadKept before after ∧
        after.outlook = before.outlook.drop Header.width) ∨
      (∃ after, readHeader before = .error (headerError before.outlook) after ∧
        before.outlook.data.length < Header.width ∧ ReadKept before after ∧
        after.transport.incoming = before.outlook.later) ∨
      ∃ fault after, readHeader before = .error (Header.interrupted fault) after ∧
        Refuses before fault ∧ ReadKept before after := by
  simp only [readHeader, Bind.bind, EStateM.bind, ensureOpen_of_open isOpen, EStateM.adaptExcept]
  rcases (timedReader_tracks before).readExact_cases Header.width (.refl before) with
    ⟨after, done, enough, kept, left⟩ | ⟨after, failed, short, kept, left⟩ |
    ⟨fault, after, failed, refuses, kept⟩
  · refine Or.inl ⟨after, ?_, enough, kept, left⟩
    have complete : ¬(before.transport.incoming.outlook.data.take Header.width).length <
        Header.width := by
      rw [List.length_take]
      omega
    rw [done]
    simp only [Header.decode, if_neg complete, Header.ofBytes_take]
    rfl
  · refine Or.inr (Or.inl ⟨after, ?_, short, kept, left⟩)
    rw [failed]
    rfl
  · refine Or.inr (Or.inr ⟨fault, after, ?_, refuses, kept⟩)
    rw [failed]

/-- A body that is owed is read in the same way. -/
theorem readOwed_cases (size : UInt64) (before : Connection) :
    (∃ after, readOwed size before = .ok (before.outlook.data.take size.toNat) after ∧
        size.toNat ≤ before.outlook.data.length ∧ ReadKept before after ∧
        after.outlook = before.outlook.drop size.toNat) ∨
      (∃ after, readOwed size before = .error (bodyError size before.outlook) after ∧
        before.outlook.data.length < size.toNat ∧ ReadKept before after ∧
        after.transport.incoming = before.outlook.later) ∨
      ∃ fault after, readOwed size before = .error (.io fault) after ∧
        Refuses before fault ∧ ReadKept before after := by
  have drained := (timedReader_tracks before).drain_limited_cases
    (.withCapacity (min size.toNat bodyRoom)) (before, size.toNat) (.refl before)
  simp only [readOwed]
  generalize timedReader.limited.drain (.withCapacity (min size.toNat bodyRoom))
    (before, size.toNat) = result at drained ⊢
  rcases drained with ⟨kept, ⟨enough, data, fault, left⟩ | ⟨short, data, fault, left⟩ |
    ⟨refusal, fault, refuses⟩⟩
  · refine Or.inl ⟨result.state.1, ?_, enough, kept, left⟩
    have complete : ¬result.data.length < size.toNat := by
      rw [data, List.length_take]
      omega
    simp only [fault, if_neg complete]
    rw [data]
    rfl
  · refine Or.inr (Or.inl ⟨result.state.1, ?_, short, kept, left⟩)
    change before.outlook.data.length < size.toNat at short
    change result.data = before.outlook.data at data
    change result.fault = before.outlook.stop at fault
    rcases ending : before.outlook.stop with _ | stop
    · simp only [fault, ending, data, if_pos short, bodyError]
    · simp only [fault, ending, bodyError]
  · refine Or.inr (Or.inr ⟨refusal, result.state.1, ?_, refuses, kept⟩)
    simp only [fault]

/-- A body within the limit is read as it is owed. -/
theorem readBody_of_within {before : Connection} (isOpen : before.closed = false) {header : Header}
    (within : ∀ limit, before.bodyLimit = some limit → header.bodySize ≤ limit) :
    readBody header before = readOwed header.bodySize before := by
  simp only [readBody, Bind.bind, EStateM.bind, ensureOpen_of_open isOpen, ensureWithinLimit]
  cases limited : before.bodyLimit with
  | none => rfl
  | some limit => simp only [if_neg (UInt64.not_lt.mpr (within limit limited))]

/-- A body over the limit is refused, and nothing is read. -/
theorem readBody_of_over {before : Connection} (isOpen : before.closed = false) {header : Header}
    {limit : UInt64} (limited : before.bodyLimit = some limit) (long : limit < header.bodySize) :
    readBody header before = .error (.bodyTooLarge header.bodySize limit) before := by
  simp only [readBody, Bind.bind, EStateM.bind, ensureOpen_of_open isOpen, ensureWithinLimit,
    limited, if_pos long]

theorem writeMessage_of_open {before : Connection} (isOpen : before.closed = false)
    (message : Bytes) :
    writeMessage message before =
      match timedWriter.writeAll message before with
      | .ok () after => .ok message.length after
      | .error fault after => .error (.io fault) after := by
  simp only [writeMessage, orError, Bind.bind, EStateM.bind, ensureOpen_of_open isOpen,
    EStateM.adaptExcept]
  cases timedWriter.writeAll message before with
  | ok value after => rfl
  | error fault after => rfl

/-- A message that is written has been sent, and one that is not has been sent in part. -/
theorem writeMessage_cases {before : Connection} (isOpen : before.closed = false)
    (message : Bytes) :
    (∃ after, writeMessage message before = .ok message.length after ∧ WriteKept before after ∧
        after.transport.sent = before.transport.sent ++ message) ∨
      ∃ fault after count, writeMessage message before = .error (.io fault) after ∧
        WriteKept before after ∧ count < message.length ∧
        after.transport.sent = before.transport.sent ++ message.take count ∧
        (before.transport.Willing → Refuses before fault) := by
  rcases writeAll_cases message before with
    ⟨after, done, kept, sent⟩ | ⟨fault, after, count, failed, kept, short, sent, refuses⟩
  · refine Or.inl ⟨after, ?_, kept, sent⟩
    simp only [writeMessage_of_open isOpen, done]
  · refine Or.inr ⟨fault, after, count, ?_, kept, short, sent, refuses⟩
    simp only [writeMessage_of_open isOpen, failed]

/-! ## A body from a source -/

/-- The result with something beside the state that the action does not touch. -/
def beside {ε σ τ α : Type} (untouched : τ) : EStateM.Result ε σ α → EStateM.Result ε (σ × τ) α
  | .ok value state => .ok value (state, untouched)
  | .error error state => .error error (state, untouched)

theorem writeFramedFrom_of_closed {before : Connection} (closed : before.closed = true)
    (endpoint : String) (source : Source) :
    writeFramedFrom endpoint (before, source) =
      beside source (.error .connectionClosed before) := by
  simp only [writeFramedFrom, ensureOpen_of_closed closed]
  rfl

/-- A source that fails costs the connection nothing, and one that comes to its end is written like
a body. -/
theorem writeFramedFrom_of_open {before : Connection} (isOpen : before.closed = false)
    (endpoint : String) (source : Source) :
    writeFramedFrom endpoint (before, source) =
      match source.outlook.stop with
      | some fault => .error (.io fault) (before, source.outlook.later)
      | none => beside source.outlook.later (writeFramed endpoint source.outlook.data before) := by
  simp only [writeFramedFrom, ensureOpen_of_open isOpen, Source.drain_reader]
  cases source.outlook.stop with
  | some fault => rfl
  | none =>
      cases writeFramed endpoint source.outlook.data before with
      | ok count after => rfl
      | error error after => rfl

end Switchboard.Connection
