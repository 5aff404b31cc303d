import Switchboard.Proofs.Comparison
import Switchboard.Proofs.Connection.Messages

/-!
# Comparing connections

Whatever a connection is asked for, it reads and writes under its deadline, one call after the
other, and looks at nothing else but whether it is closed and how long a body may be. So two runs of
a message agree if two runs of a single read do, and two runs of a single write, from connections
that are alike in the other respects (`Matching`). This is shown once here for everything that reads
or writes.

A comparison of faults goes together with one of errors, because messages report the faults that
they meet. What is said about a single run is said by comparing it with itself (`matching_alone`).
-/

namespace Switchboard.Connection

variable {α : Type}

/-- A comparison of faults and one of errors that say the same, for connections that read and write
alike. -/
structure Matching (faults : Comparison Fault Connection) (errors : Comparison Error Connection) :
    Prop where
  resumable : faults.Resumable
  alike_iff : ∀ {left right}, errors.alike left right ↔ faults.alike left right
  fails_iff : ∀ {error left right}, errors.fails error left right ↔ faults.alike left right
  cut_iff : ∀ {error left}, errors.cut error left ↔
    ∃ fault, error = .io fault ∧ faults.cut fault left
  /-- No run is cut short by an end of stream, which a header would report in another way. -/
  unended : ∀ {fault left}, faults.cut fault left → fault.kind ≠ .unexpectedEof
  closed : ∀ {left right}, faults.alike left right → left.closed = right.closed
  bodyLimit : ∀ {left right}, faults.alike left right → left.bodyLimit = right.bodyLimit
  timedRead : ∀ asked, faults.Mirrors (timedRead asked) (timedRead asked)
  timedWrite : ∀ offered, faults.Mirrors (timedWrite offered) (timedWrite offered)

namespace Matching

variable {faults : Comparison Fault Connection} {errors : Comparison Error Connection}
  (matching : Matching faults errors)

include matching

theorem error {error : Error} {left right : Connection} (alike : faults.alike left right) :
    errors.Agree (.error error left : EStateM.Result Error Connection α) (.error error right) :=
  .error (matching.fails_iff.mpr alike)

theorem ok {value : α} {left right : Connection} (alike : faults.alike left right) :
    errors.Agree (.ok value left) (.ok value right) :=
  .ok (matching.alike_iff.mpr alike)

theorem throw (error : Error) :
    errors.Mirrors (throw error : EStateM Error Connection α) (throw error) :=
  fun _ _ alike => matching.error (matching.alike_iff.mp alike)

theorem adapt {first second : EStateM Fault Connection α} (mirrors : faults.Mirrors first second)
    {map : Fault → Error} (reports : ∀ fault, fault.kind ≠ .unexpectedEof → map fault = .io fault) :
    errors.Mirrors (EStateM.adaptExcept map first) (EStateM.adaptExcept map second) :=
  mirrors.adapt matching.alike_iff.mp matching.alike_iff.mpr
    (fun fails => matching.fails_iff.mpr (matching.resumable.fails_iff.mp fails))
    (fun cut => matching.cut_iff.mpr ⟨_, reports _ (matching.unended cut), cut⟩)

theorem ensureOpen : errors.Mirrors ensureOpen ensureOpen := by
  intro left right alike
  have alike := matching.alike_iff.mp alike
  simp only [Connection.ensureOpen, matching.closed alike]
  split
  · exact matching.error alike
  · exact matching.ok alike

theorem unlessClosed {action : EStateM Fault Connection α}
    (mirrors : faults.Mirrors action action) :
    faults.Mirrors (unlessClosed action) (unlessClosed action) := by
  intro left right alike
  simp only [Connection.unlessClosed, matching.closed alike]
  split
  · exact .error (matching.resumable.fails_iff.mpr alike)
  · exact mirrors alike

/-! ## Messages -/

theorem writeMessage (message : Bytes) :
    errors.Mirrors (writeMessage message) (writeMessage message) := by
  have written : faults.Mirrors (timedWriter.writeAll message) (timedWriter.writeAll message) :=
    Writer.mirrors_writeAll matching.resumable matching.timedWrite message
  exact matching.ensureOpen.bind fun _ =>
    (matching.adapt written fun _ _ => rfl).bind fun _ => .pure _

/-- What is left of a source is the same in both runs. -/
theorem writeFramedFrom (endpoint : String) (source : Source) {left right : Connection}
    (alike : errors.alike left right) :
    ∃ (rest : Source) (first second : EStateM.Result Error Connection Nat),
      writeFramedFrom endpoint (left, source) = beside rest first ∧
        writeFramedFrom endpoint (right, source) = beside rest second ∧
        errors.Agree first second := by
  have same := matching.closed (matching.alike_iff.mp alike)
  cases closed : right.closed with
  | true =>
      exact ⟨source, _, _, writeFramedFrom_of_closed (same.trans closed) endpoint source,
        writeFramedFrom_of_closed closed endpoint source,
        matching.error (matching.alike_iff.mp alike)⟩
  | false =>
      rw [writeFramedFrom_of_open (same.trans closed), writeFramedFrom_of_open closed]
      cases source.outlook.stop with
      | some fault =>
          exact ⟨source.outlook.later, _, _, rfl, rfl, matching.error (matching.alike_iff.mp alike)⟩
      | none => exact ⟨source.outlook.later, _, _, rfl, rfl, matching.writeMessage _ alike⟩

theorem readHeader : errors.Mirrors readHeader readHeader := by
  have read : faults.Mirrors (timedReader.readExact Header.width)
      (timedReader.readExact Header.width) :=
    Reader.mirrors_readExact matching.resumable matching.timedRead Header.width
  refine matching.ensureOpen.bind fun _ => (matching.adapt read ?_).bind fun bytes => ?_
  · intro fault unended
    exact if_neg unended
  · cases Header.decode bytes with
    | ok header => exact .pure header
    | error error => exact matching.throw error

theorem ensureWithinLimit (size : UInt64) :
    errors.Mirrors (ensureWithinLimit size) (ensureWithinLimit size) := by
  intro left right alike
  have alike := matching.alike_iff.mp alike
  simp only [Connection.ensureWithinLimit, matching.bodyLimit alike]
  cases right.bodyLimit with
  | none => exact matching.ok alike
  | some limit =>
      dsimp only
      split
      · exact matching.error alike
      · exact matching.ok alike

/-- Reading what is owed goes through a reader that counts beside the connection. -/
theorem readOwed (size : UInt64) : errors.Mirrors (readOwed size) (readOwed size) := by
  intro left right alike
  have reads (asked : Nat) : faults.counted.Mirrors (timedReader.limited.read asked)
      (timedReader.limited.read asked) :=
    Comparison.mirrors_limited matching.timedRead asked
  have drained := Reader.drain_agrees matching.resumable.counted reads
    (.withCapacity (min size.toNat bodyRoom)) (left, size.toNat) (right, size.toNat)
    ⟨matching.alike_iff.mp alike, rfl⟩
  simp only [Connection.readOwed]
  rcases drained with ⟨other, same, alike, _⟩ | ⟨fault, failed, cut⟩
  · rw [same]
    dsimp only
    split
    · exact matching.error alike
    · split
      · exact matching.error alike
      · exact matching.ok alike
  · rw [failed]
    exact .cut (matching.cut_iff.mpr ⟨fault, rfl, cut⟩)

theorem readBody (header : Header) : errors.Mirrors (readBody header) (readBody header) :=
  matching.ensureOpen.bind fun _ =>
    (matching.ensureWithinLimit _).bind fun _ => matching.readOwed _

theorem readFramed : errors.Mirrors readFramed readFramed :=
  matching.readHeader.bind fun header => (matching.readBody header).bind fun _ => .pure _

theorem readFramedText : errors.Mirrors readFramedText readFramedText :=
  matching.readFramed.bind fun _ => .pure _

/-! ## Raw operations -/

theorem rawRead (asked : Nat) : faults.Mirrors (rawReader.read asked) (rawReader.read asked) :=
  matching.unlessClosed (matching.timedRead asked)

theorem rawWrite (offered : Bytes) :
    faults.Mirrors (rawWriter.write offered) (rawWriter.write offered) :=
  matching.unlessClosed (matching.timedWrite offered)

theorem readExact (count : Nat) : faults.Mirrors (readExact count) (readExact count) :=
  Reader.mirrors_readExact matching.resumable matching.rawRead count

theorem writeAll (offered : Bytes) : faults.Mirrors (writeAll offered) (writeAll offered) :=
  Writer.mirrors_writeAll matching.resumable matching.rawWrite offered

theorem readToEnd {left right : Connection} (alike : faults.alike left right) :
    (∃ other, right.readToEnd = { left.readToEnd with state := other } ∧
        faults.alike left.readToEnd.state other) ∨
      ∃ fault, left.readToEnd.fault = some fault ∧ faults.cut fault left.readToEnd.state :=
  Reader.drain_agrees matching.resumable matching.rawRead (.withCapacity 0) left right alike

end Matching

/-- What a single read and a single write keep of a connection, whatever reads or writes keeps. -/
theorem matching_alone {holds : Connection → Prop} {late : Fault → Connection → Prop}
    (quiet : ∀ {fault left}, late fault left → ¬fault.isInterrupted = true)
    (unended : ∀ {fault left}, late fault left → fault.kind ≠ .unexpectedEof)
    (read : ∀ asked, (Comparison.alone holds late).Mirrors (timedRead asked) (timedRead asked))
    (write : ∀ offered, (Comparison.alone holds late).Mirrors (timedWrite offered)
      (timedWrite offered)) :
    Matching (.alone holds late)
      (.alone holds fun error left => ∃ fault, error = .io fault ∧ late fault left) where
  resumable := ⟨Iff.rfl, quiet⟩
  alike_iff := Iff.rfl
  fails_iff := Iff.rfl
  cut_iff := Iff.rfl
  unended := unended
  closed alike := congrArg Connection.closed alike.1
  bodyLimit alike := congrArg Connection.bodyLimit alike.1
  timedRead := read
  timedWrite := write

end Switchboard.Connection
