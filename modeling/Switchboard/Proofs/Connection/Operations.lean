import Switchboard.Proofs.Connection.Respects

/-!
# Operations

Everything that can be asked of a connection, as data, so that one can speak about sequences of
operations. An operation that is over has a report, which says how it has ended. It may have
returned something, it may have left something of a source, and it has made some calls of the
transport.

What `Matching` says about two runs of a message holds of every operation that transfers bytes
(`Matching.perform`), and so does what `Unbroken` says about a single one (`Unbroken.perform`).
-/

namespace Switchboard.Connection

/-- What can be asked of a connection. -/
inductive Operation
  | writeHeader (header : Header)
  | writeFramed (endpoint : String) (body : Bytes)
  | writeFramedText (endpoint text : String)
  | writeFramedFrom (endpoint : String) (source : Source)
  | readHeader
  | readBody (header : Header)
  | readFramed
  | readFramedText
  | setDeadline (deadline : Instant)
  | clearDeadline
  | limitBodies (limit : Option UInt64)
  | read (asked : Nat)
  | readExact (count : Nat)
  | readToEnd
  | write (offered : Bytes)
  | writeAll (offered : Bytes)
  | flush
  | close

/-- How an operation ends, apart from what it returns. -/
inductive Report
  | done
  | failed (error : Error)
  | faulted (fault : Fault)
  deriving DecidableEq

/-- An operation that is over. -/
structure Performed where
  report : Report
  /-- What is left of the source that came with the operation. -/
  left : Source
  after : Connection

/-- What an operation returns. -/
inductive Yield
  | count (count : Nat)
  | bytes (data : Bytes)
  | header (header : Header)
  | message (header : Header) (body : Bytes)
  | text (header : Header) (content : String)
  deriving DecidableEq

section

variable {ε σ α : Type}

def Performed.ofError : EStateM.Result Error Connection α → Performed
  | .ok _ after => ⟨.done, [], after⟩
  | .error error after => ⟨.failed error, [], after⟩

def Performed.ofFault : EStateM.Result Fault Connection α → Performed
  | .ok _ after => ⟨.done, [], after⟩
  | .error fault after => ⟨.faulted fault, [], after⟩

def value? : EStateM.Result ε σ α → Option α
  | .ok value _ => some value
  | .error _ _ => none

end

namespace Operation

def perform (before : Connection) : Operation → Performed
  | writeHeader header => .ofError (Connection.writeHeader header before)
  | writeFramed endpoint body => .ofError (Connection.writeFramed endpoint body before)
  | writeFramedText endpoint text => .ofError (Connection.writeFramedText endpoint text before)
  | writeFramedFrom endpoint source =>
      match Connection.writeFramedFrom endpoint (before, source) with
      | .ok _ (after, left) => ⟨.done, left, after⟩
      | .error error (after, left) => ⟨.failed error, left, after⟩
  | readHeader => .ofError (Connection.readHeader before)
  | readBody header => .ofError (Connection.readBody header before)
  | readFramed => .ofError (Connection.readFramed before)
  | readFramedText => .ofError (Connection.readFramedText before)
  | setDeadline deadline => .ofError (Connection.setDeadline deadline before)
  | clearDeadline => .ofError (Connection.clearDeadline before)
  | limitBodies limit => ⟨.done, [], before.withBodyLimit limit⟩
  | read asked => .ofFault (Connection.read asked before)
  | readExact count => .ofFault (Connection.readExact count before)
  | readToEnd =>
      let drained := before.readToEnd
      match drained.fault with
      | none => ⟨.done, [], drained.state⟩
      | some fault => ⟨.faulted fault, [], drained.state⟩
  | write offered => .ofFault (Connection.write offered before)
  | writeAll offered => .ofFault (Connection.writeAll offered before)
  | flush => .ofFault (Connection.flush before)
  | close => .ofError (Connection.close before)

/-- The source that comes with the operation. -/
def source : Operation → Source
  | writeFramedFrom _ source => source
  | _ => []

/-- What the operation returns, if anything. Reading to the end also brings the bytes before a
fault. -/
def yield (before : Connection) : Operation → Option Yield
  | writeHeader header => (value? (Connection.writeHeader header before)).map .count
  | writeFramed endpoint body => (value? (Connection.writeFramed endpoint body before)).map .count
  | writeFramedText endpoint text =>
      (value? (Connection.writeFramedText endpoint text before)).map .count
  | writeFramedFrom endpoint source =>
      (value? (Connection.writeFramedFrom endpoint (before, source))).map .count
  | readHeader => (value? (Connection.readHeader before)).map .header
  | readBody header => (value? (Connection.readBody header before)).map .bytes
  | readFramed =>
      (value? (Connection.readFramed before)).map fun (header, body) => .message header body
  | readFramedText =>
      (value? (Connection.readFramedText before)).map fun (header, content) => .text header content
  | read asked => (value? (Connection.read asked before)).map .bytes
  | readExact count => (value? (Connection.readExact count before)).map .bytes
  | readToEnd => some (.bytes before.readToEnd.data)
  | write offered => (value? (Connection.write offered before)).map .count
  | _ => none

/-- The calls of the transport that the operation makes, the latest first. -/
def calls (before : Connection) (operation : Operation) : List Transport.Call :=
  (operation.perform before).after.transport.since before.transport.journal.length

theorem calls_eq {operation : Operation} {before : Connection} {made : List Transport.Call}
    (grown : (operation.perform before).after.transport.journal =
      made ++ before.transport.journal) :
    operation.calls before = made := by
  have long : (made ++ before.transport.journal).length - before.transport.journal.length =
      made.length := by
    rw [List.length_append, Nat.add_sub_cancel]
  rw [calls, Transport.since, grown, long, List.take_left]

theorem perform_clearDeadline {before : Connection} (isOpen : before.closed = false) :
    clearDeadline.perform before =
      ⟨before.transport.timeoutFaults.head?.join.elim .done fun fault => .failed (.io fault), [],
        before.relieved⟩ := by
  simp only [perform, clearDeadline_of_open isOpen]
  cases before.transport.timeoutFaults.head?.join with
  | none => rfl
  | some fault => rfl

theorem calls_clearDeadline {before : Connection} (isOpen : before.closed = false) :
    clearDeadline.calls before = [.setTimeout none before.transport.timeoutFaults.head?.join] := by
  refine calls_eq ?_
  rw [perform_clearDeadline isOpen]
  rfl

/-- How the operation ends if a fault ends it. -/
def faulting (fault : Fault) : Operation → Report
  | read _ | readExact _ | readToEnd | write _ | writeAll _ | flush => .faulted fault
  | _ => .failed (.io fault)

/-- The operation reads or writes, in messages or without. -/
def Transfers : Operation → Prop
  | setDeadline _ | clearDeadline | limitBodies _ | flush | close => False
  | _ => True

/-- Whatever else can be asked of a connection. -/
theorem transfers_or (operation : Operation) :
    operation.Transfers ∨ (∃ deadline, operation = setDeadline deadline) ∨
      operation = clearDeadline ∨
      (∃ limit, operation = limitBodies limit) ∨ operation = flush ∨ operation = close := by
  cases operation with
  | setDeadline deadline => exact Or.inr (Or.inl ⟨deadline, rfl⟩)
  | clearDeadline => exact Or.inr (Or.inr (Or.inl rfl))
  | limitBodies limit => exact Or.inr (Or.inr (Or.inr (Or.inl ⟨limit, rfl⟩)))
  | flush => exact Or.inr (Or.inr (Or.inr (Or.inr (Or.inl rfl))))
  | close => exact Or.inr (Or.inr (Or.inr (Or.inr (Or.inr rfl))))
  | _ => exact Or.inl trivial

/-- The operation ends in the same way on both connections. -/
structure Coincides (operation : Operation) (left right : Connection) : Prop where
  report : (operation.perform left).report = (operation.perform right).report
  rest : (operation.perform left).left = (operation.perform right).left
  yield : operation.yield left = operation.yield right

theorem coincides_iff {operation : Operation} {left right : Connection} :
    operation.Coincides left right ↔
      (operation.perform left).report = (operation.perform right).report ∧
        (operation.perform left).left = (operation.perform right).left ∧
          operation.yield left = operation.yield right :=
  ⟨fun same => ⟨same.report, same.rest, same.yield⟩,
    fun ⟨report, rest, yield⟩ => ⟨report, rest, yield⟩⟩

end Operation

/-! ## Two runs of an operation -/

namespace Matching

variable {faults : Comparison Fault Connection} {errors : Comparison Error Connection}
  (matching : Matching faults errors) {α : Type}

/-- Two operations that are over have ended in the same way, unless the first one was cut short. -/
def Alongside (faults : Comparison Fault Connection) (operation : Operation)
    (left right : Connection) : Prop :=
  (operation.Coincides left right ∧
      faults.alike (operation.perform left).after (operation.perform right).after) ∨
    ∃ fault, (operation.perform left).report = operation.faulting fault ∧
      faults.cut fault (operation.perform left).after

include matching

theorem alongside_ofError {operation : Operation} {action : EStateM Error Connection α}
    (mirrors : errors.Mirrors action action) (give : Option α → Option Yield)
    {left right : Connection} (alike : faults.alike left right)
    (performs : ∀ before, operation.perform before = .ofError (action before) := by intro; rfl)
    (yields : ∀ before, operation.yield before = give (value? (action before)) := by intro; rfl)
    (reports : ∀ fault, operation.faulting fault = .failed (.io fault) := by intro; rfl) :
    Alongside faults operation left right := by
  have agree := mirrors (matching.alike_iff.mpr alike)
  simp only [Alongside, Operation.coincides_iff, performs, yields]
  generalize action left = before, action right = after at agree ⊢
  cases agree with
  | ok kept => exact Or.inl ⟨⟨rfl, rfl, rfl⟩, matching.alike_iff.mp kept⟩
  | error fails => exact Or.inl ⟨⟨rfl, rfl, rfl⟩, matching.fails_iff.mp fails⟩
  | cut short =>
      rcases matching.cut_iff.mp short with ⟨fault, rfl, cut⟩
      exact Or.inr ⟨fault, (reports fault).symm, cut⟩

theorem alongside_ofFault {operation : Operation} {action : EStateM Fault Connection α}
    (mirrors : faults.Mirrors action action) (give : Option α → Option Yield)
    {left right : Connection} (alike : faults.alike left right)
    (performs : ∀ before, operation.perform before = .ofFault (action before) := by intro; rfl)
    (yields : ∀ before, operation.yield before = give (value? (action before)) := by intro; rfl)
    (reports : ∀ fault, operation.faulting fault = .faulted fault := by intro; rfl) :
    Alongside faults operation left right := by
  have agree := mirrors alike
  simp only [Alongside, Operation.coincides_iff, performs, yields]
  generalize action left = before, action right = after at agree ⊢
  cases agree with
  | ok kept => exact Or.inl ⟨⟨rfl, rfl, rfl⟩, kept⟩
  | error fails => exact Or.inl ⟨⟨rfl, rfl, rfl⟩, matching.resumable.fails_iff.mp fails⟩
  | cut cut => exact Or.inr ⟨_, (reports _).symm, cut⟩

theorem alongside_writeFramedFrom (endpoint : String) (source : Source) {left right : Connection}
    (alike : faults.alike left right) :
    Alongside faults (.writeFramedFrom endpoint source) left right := by
  rcases matching.writeFramedFrom endpoint source (matching.alike_iff.mpr alike) with
    ⟨rest, first, second, early, late, agree⟩
  simp only [Alongside, Operation.coincides_iff, Operation.perform, Operation.yield, early, late]
  cases agree with
  | ok kept => exact Or.inl ⟨⟨rfl, rfl, rfl⟩, matching.alike_iff.mp kept⟩
  | error fails => exact Or.inl ⟨⟨rfl, rfl, rfl⟩, matching.fails_iff.mp fails⟩
  | cut short =>
      rcases matching.cut_iff.mp short with ⟨fault, rfl, cut⟩
      exact Or.inr ⟨fault, rfl, cut⟩

theorem alongside_readToEnd {left right : Connection} (alike : faults.alike left right) :
    Alongside faults .readToEnd left right := by
  simp only [Alongside, Operation.coincides_iff, Operation.perform, Operation.yield]
  rcases matching.readToEnd alike with ⟨other, same, kept⟩ | ⟨fault, failed, cut⟩
  · rw [same]
    left
    cases left.readToEnd.fault with
    | none => exact ⟨⟨rfl, rfl, rfl⟩, kept⟩
    | some fault => exact ⟨⟨rfl, rfl, rfl⟩, kept⟩
  · simp only [failed]
    exact Or.inr ⟨fault, rfl, cut⟩

/-- What holds of single reads and writes holds of everything that transfers bytes. -/
theorem perform {left right : Connection} (alike : faults.alike left right) {operation : Operation}
    (transfers : operation.Transfers) : Alongside faults operation left right := by
  cases operation with
  | writeHeader header =>
      exact matching.alongside_ofError (matching.writeMessage _) (Option.map .count) alike
  | writeFramed endpoint body =>
      exact matching.alongside_ofError (matching.writeMessage _) (Option.map .count) alike
  | writeFramedText endpoint text =>
      exact matching.alongside_ofError (matching.writeMessage _) (Option.map .count) alike
  | writeFramedFrom endpoint source =>
      exact matching.alongside_writeFramedFrom endpoint source alike
  | readHeader => exact matching.alongside_ofError matching.readHeader (Option.map .header) alike
  | readBody header =>
      exact matching.alongside_ofError (matching.readBody header) (Option.map .bytes) alike
  | readFramed =>
      exact matching.alongside_ofError matching.readFramed
        (Option.map fun (header, body) => .message header body) alike
  | readFramedText =>
      exact matching.alongside_ofError matching.readFramedText
        (Option.map fun (header, content) => .text header content) alike
  | read asked =>
      exact matching.alongside_ofFault (matching.rawRead asked) (Option.map .bytes) alike
  | readExact count =>
      exact matching.alongside_ofFault (matching.readExact count) (Option.map .bytes) alike
  | readToEnd => exact matching.alongside_readToEnd alike
  | write offered =>
      exact matching.alongside_ofFault (matching.rawWrite offered) (Option.map .count) alike
  | writeAll offered =>
      exact matching.alongside_ofFault (matching.writeAll offered) (fun _ => none) alike
  | setDeadline | clearDeadline | limitBodies | flush | close => exact absurd transfers not_false

end Matching

/-! ## A single run -/

section

variable {α : Type} {rel : Connection → Connection → Prop}

theorem Performed.respects_ofError {action : EStateM Error Connection α}
    (respects : Respects rel action) (before : Connection) :
    rel before (Performed.ofError (action before)).after := by
  cases step : action before with
  | ok value after => exact respects.ok step
  | error error after => exact respects.error step

theorem Performed.respects_ofFault {action : EStateM Fault Connection α}
    (respects : Respects rel action) (before : Connection) :
    rel before (Performed.ofFault (action before)).after := by
  cases step : action before with
  | ok value after => exact respects.ok step
  | error fault after => exact respects.error step

end

/-- A relation that no single read or write breaks is kept by everything that transfers bytes. -/
theorem Unbroken.perform {rel : Connection → Connection → Prop} (unbroken : Unbroken rel)
    (before : Connection) {operation : Operation} (transfers : operation.Transfers) :
    rel before (operation.perform before).after := by
  rcases (unbroken.matching before).perform ⟨rfl, unbroken.refl before⟩ transfers with
    ⟨_, kept⟩ | ⟨_, _, never⟩
  · exact kept.2
  · exact absurd never not_false

end Switchboard.Connection
