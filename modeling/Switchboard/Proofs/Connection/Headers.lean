import Switchboard.Header.Reading
import Switchboard.Proofs.Connection.Messages
import Switchboard.Proofs.Stream.Remainder

/-!
# Headers from streams and from connections

A header is read from a stream in six parts, and from a connection in one. Both readings take
exactly the bytes of a header off the script, or all data up to the stop if there are not enough of
them; in the first case they return the header that is decoded from these bytes, and in the second
both give the same reason.

This is shown for one part and carried over from there: two actions that take their bytes off the
script, made one after the other, take the bytes of both (`Takes.bind`). What the parts are does not
matter for that, and neither does it matter whether a fault stands at the end of a part or inside
it.
-/

namespace Switchboard

namespace Header

open Connection (headerError)

variable {σ α β : Type} {script : σ → Source} {good : σ → Prop}

/-- The action takes exactly so many bytes off the script and makes its value of them. If there are
not enough, it takes what is there before the stop and says why there is no more. -/
structure Takes (script : σ → Source) (good : σ → Prop) (action : EStateM Error σ α) (count : Nat)
    (value : Bytes → α) : Prop where
  enough : ∀ {state}, good state → count ≤ (script state).outlook.data.length →
    ∃ final, action state = .ok (value (script state).outlook.data) final ∧ good final ∧
      script final = (script state).beyond count
  short : ∀ {state}, good state → (script state).outlook.data.length < count →
    ∃ final, action state = .error (headerError (script state).outlook) final ∧ good final ∧
      script final = (script state).outlook.later

theorem Takes.pure (value : α) : Takes script good (Pure.pure value) 0 (fun _ => value) where
  enough {state} isGood _ := ⟨state, rfl, isGood, (Source.beyond_zero _).symm⟩
  short _ short := absurd short (Nat.not_lt_zero _)

/-- What is taken after something else begins where that ended. -/
theorem Takes.bind {first : EStateM Error σ α} {next : α → EStateM Error σ β} {count more : Nat}
    {value : Bytes → α} {result : α → Bytes → β} (early : Takes script good first count value)
    (late : ∀ taken, Takes script good (next taken) more (result taken)) :
    Takes script good (first >>= next) (count + more)
      (fun data => result (value data) (data.drop count)) where
  enough := by
    -- The second action sees the outlook that the first one has left, which is the first one's
    -- without its bytes.
    intro state isGood enough
    have firstEnough : count ≤ (script state).outlook.data.length := by omega
    rcases early.enough isGood firstEnough with ⟨middle, done, goodMiddle, left⟩
    have view : (script middle).outlook = (script state).outlook.drop count := by
      rw [left, Source.outlook_beyond firstEnough]
    have restEnough : more ≤ (script middle).outlook.data.length := by
      rw [view, Source.Outlook.drop, List.length_drop]
      omega
    rcases (late (value (script state).outlook.data)).enough goodMiddle restEnough with
      ⟨final, rest, goodFinal, leftFinal⟩
    refine ⟨final, ?_, goodFinal, ?_⟩
    · rw [view] at rest
      simp only [Bind.bind, EStateM.bind, done, rest]
      rfl
    · rw [leftFinal, left, Source.beyond_beyond]
  short := by
    -- The stop lies behind the bytes of the first action or among them.
    intro state isGood short
    by_cases enough : count ≤ (script state).outlook.data.length
    · rcases early.enough isGood enough with ⟨middle, done, goodMiddle, left⟩
      have view : (script middle).outlook = (script state).outlook.drop count := by
        rw [left, Source.outlook_beyond enough]
      have restShort : (script middle).outlook.data.length < more := by
        rw [view, Source.Outlook.drop, List.length_drop]
        omega
      rcases (late (value (script state).outlook.data)).short goodMiddle restShort with
        ⟨final, failed, goodFinal, leftFinal⟩
      rw [view] at failed leftFinal
      refine ⟨final, ?_, goodFinal, leftFinal⟩
      simp only [Bind.bind, EStateM.bind, done, failed]
      rfl
    · rcases early.short isGood (Nat.lt_of_not_le enough) with ⟨final, failed, goodFinal, left⟩
      refine ⟨final, ?_, goodFinal, left⟩
      simp only [Bind.bind, EStateM.bind, failed]

/-- How an action has ended, and what it has left of the script. -/
def outcome (script : σ → Source) : EStateM.Result Error σ α → Except Error α × Source
  | .ok value final => (.ok value, script final)
  | .error error final => (.error error, script final)

theorem Takes.outcome_eq {action : EStateM Error σ α} {count : Nat} {value : Bytes → α}
    (takes : Takes script good action count value) {state : σ} (isGood : good state) :
    outcome script (action state) =
      if count ≤ (script state).outlook.data.length then
        (.ok (value (script state).outlook.data), (script state).beyond count)
      else (.error (headerError (script state).outlook), (script state).outlook.later) := by
  by_cases enough : count ≤ (script state).outlook.data.length
  · rcases takes.enough isGood enough with ⟨final, done, _, left⟩
    rw [if_pos enough, done, outcome, left]
  · rcases takes.short isGood (Nat.lt_of_not_le enough) with ⟨final, failed, _, left⟩
    rw [if_neg enough, failed, outcome, left]

/-! ## The readings -/

section

variable {reader : Reader σ} {refused : Fault → Prop}

theorem readPart_takes (tracks : reader.Tracks script good refused)
    (never : ∀ fault, ¬refused fault) (width : Nat) :
    Takes script good (readPart reader width) width (fun data => data.take width) where
  enough := by
    intro state isGood enough
    rcases tracks.readExact_cases width isGood with ⟨final, done, _, goodFinal, _⟩ |
      ⟨_, _, short, _⟩ | ⟨fault, _, _, isRefused, _⟩
    · refine ⟨final, ?_, goodFinal, tracks.script_of_readExact isGood done⟩
      simp only [readPart, EStateM.adaptExcept, done]
    · omega
    · exact absurd isRefused (never fault)
  short := by
    intro state isGood short
    rcases tracks.readExact_cases width isGood with ⟨_, _, enough, _⟩ |
      ⟨final, failed, _, goodFinal, left⟩ | ⟨fault, _, _, isRefused, _⟩
    · omega
    · refine ⟨final, ?_, goodFinal, left⟩
      simp only [readPart, EStateM.adaptExcept, failed]
      rfl
    · exact absurd isRefused (never fault)

theorem readFrom_takes (tracks : reader.Tracks script good refused)
    (never : ∀ fault, ¬refused fault) :
    Takes script good (readFrom reader) width ofBytes := by
  have part := readPart_takes tracks never
  have parts : Takes script good (readFrom reader) width _ :=
    (part 1).bind fun tag => (part wordWidth).bind fun userId =>
      (part wordWidth).bind fun timeout => (part wordWidth).bind fun bodySize =>
        (part regionWidth).bind fun contentType => (part regionWidth).bind fun endpoint =>
          .pure (ofParts (tag.headD 0) userId timeout bodySize contentType endpoint)
  refine cast (congrArg _ (funext fun data => ?_)) parts
  cases data <;> simp [ofBytes, List.drop_drop, wordWidth, regionWidth]

end

/-- Why a header stays incomplete at a stop. -/
def stopError : Option Fault → Error
  | none => .disconnected
  | some fault => if fault.kind = .unexpectedEof then .disconnected else .io fault

theorem headerError_eq (outlook : Source.Outlook) :
    headerError outlook = stopError outlook.stop := by
  rcases ending : outlook.stop with _ | fault <;> simp [headerError, ending, stopError, interrupted]
  decide

theorem decode_take_append {bytes : Bytes} (enough : width ≤ bytes.length) (more : Bytes) :
    decode (bytes.take width ++ more) = .ok (ofBytes bytes) := by
  have long : ¬(bytes.take width ++ more).length < width := by
    rw [List.length_append, List.length_take]
    omega
  have first : (bytes.take width ++ more).take width = bytes.take width := by
    simp [enough]
  rw [decode, if_neg long, ← ofBytes_take, first, ofBytes_take]

end Header

namespace Connection

theorem readHeader_takes {start : Connection} (isOpen : start.closed = false)
    (untimed : start.deadline = none) :
    Header.Takes (fun connection => connection.transport.incoming) (ReadKept start) readHeader
      Header.width Header.ofBytes := by
  have part := Header.readPart_takes (timedReader_tracks start) (not_refuses untimed) Header.width
  constructor
  · intro state kept enough
    rcases part.enough kept enough with ⟨final, done, keptFinal, left⟩
    refine ⟨final, ?_, keptFinal, left⟩
    have decoded := Header.decode_take_append enough []
    rw [List.append_nil] at decoded
    rw [Header.readPart] at done
    simp only [readHeader, Bind.bind, EStateM.bind, ensureOpen_of_open (kept.closed.trans isOpen),
      done, decoded]
    rfl
  · intro state kept short
    rcases part.short kept short with ⟨final, failed, keptFinal, left⟩
    refine ⟨final, ?_, keptFinal, left⟩
    rw [Header.readPart] at failed
    simp only [readHeader, Bind.bind, EStateM.bind, ensureOpen_of_open (kept.closed.trans isOpen),
      failed]

open Header in
/-- A header is the same and leaves the same whether it is read from a script part by part or as a
whole from a connection that gets the script. -/
theorem header_readings_agree {source : Source} {connection : Connection}
    (isOpen : connection.closed = false) (untimed : connection.deadline = none)
    (brings : connection.transport.incoming = source) :
    outcome (fun after => after.transport.incoming) (readHeader connection) =
        outcome id (readFrom Source.reader source) ∧
      (width ≤ source.outlook.data.length →
        ∃ header, (∀ more, decode (source.outlook.data.take width ++ more) = .ok header) ∧
          outcome id (readFrom Source.reader source) = (.ok header, source.beyond width) ∧
          (source.beyond width).outlook = source.outlook.drop width ∧
          source.bytes = source.outlook.data.take width ++ (source.beyond width).bytes) ∧
      (source.outlook.data.length < width →
        outcome id (readFrom Source.reader source) =
            (.error (stopError source.outlook.stop), source.outlook.later) ∧
          decode source.outlook.data =
            .error (.incompleteHeader width source.outlook.data.length)) ∧
      ∀ other : Source, other.calm = source.calm →
        (outcome id (readFrom Source.reader other)).1 =
            (outcome id (readFrom Source.reader source)).1 ∧
          (outcome id (readFrom Source.reader other)).2.calm =
            (outcome id (readFrom Source.reader source)).2.calm := by
  subst brings
  have streamed : ∀ script : Source, outcome id (readFrom Source.reader script) =
      if width ≤ script.outlook.data.length then
        (.ok (ofBytes script.outlook.data), script.beyond width)
      else (.error (headerError script.outlook), script.outlook.later) := by
    intro script
    exact (readFrom_takes Source.reader_tracks fun _ => not_false).outcome_eq trivial
  have whole := (readHeader_takes isOpen untimed).outcome_eq (.refl connection)
  refine ⟨?_, ?_, ?_, ?_⟩
  · rw [whole, streamed]
  · intro enough
    refine ⟨_, decode_take_append enough, ?_, Source.outlook_beyond enough,
      Source.bytes_eq_take_beyond enough⟩
    rw [streamed, if_pos enough]
  · intro short
    refine ⟨?_, decode_eq_error_iff.mpr ⟨short, rfl⟩⟩
    rw [streamed, if_neg (Nat.not_le_of_lt short), headerError_eq]
  · intro other same
    rcases Source.outlook_eq_of_calm_eq same with ⟨data, stop, later⟩
    rw [streamed, streamed, headerError_eq, headerError_eq, data, stop]
    split
    · refine ⟨rfl, ?_⟩
      rw [← Source.beyond_calm, ← Source.beyond_calm, same]
    · exact ⟨rfl, later⟩

/-- A fault that stands between two words of a header, after an interruption inside the first
one. -/
theorem fault_between_words :
    let reset : Fault := .plain .connectionReset
    let source : Source := [.data 0 (List.replicate 9 0), .fault (.plain .interrupted),
      .data 0 (List.replicate 6 0), .fault reset, .data 9 []]
    Header.outcome id (Header.readFrom Source.reader source) = (.error (.io reset), [.data 9 []]) ∧
      Header.outcome (fun after => after.transport.incoming) (readHeader (bringing source)) =
        (.error (.io reset), [.data 9 []]) := by
  intro reset source
  have isOpen : (bringing source).closed = false := rfl
  rcases header_readings_agree isOpen rfl rfl with ⟨agree, _, short, _⟩
  have streamed := (short (by decide)).1
  rw [agree]
  exact ⟨streamed, streamed⟩

end Connection

end Switchboard
