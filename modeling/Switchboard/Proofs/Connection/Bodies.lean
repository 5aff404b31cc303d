import Switchboard.Proofs.Connection.Respects
import Switchboard.Proofs.Stream.Remainder

/-!
# Bodies to the byte

Without a deadline a body is read by reads of the transport and nothing else (`OnlyRead`). If its
bytes are there, they are taken and what stands behind them stays, be it the next frame or a stop
right behind the last byte. If they are not, all data up to the stop are taken. How much room is
made for the body, and how far that grows, makes no difference to this, so a length that no peer can
ever fill is no special case.
-/

namespace Switchboard

namespace Connection

/-- The connection after some reads of its transport. Nothing else has happened. -/
def OnlyRead (before after : Connection) : Prop :=
  ∃ (incoming : Source) (reads : List Transport.Call),
    (∀ call ∈ reads, ∃ asked outcome, call = .read asked outcome) ∧
      after = { before with transport := { before.transport with
        incoming, journal := reads ++ before.transport.journal } }

theorem OnlyRead.refl (connection : Connection) : OnlyRead connection connection :=
  ⟨connection.transport.incoming, [], fun _ among => absurd among List.not_mem_nil, rfl⟩

theorem OnlyRead.trans {first second third : Connection} (early : OnlyRead first second)
    (late : OnlyRead second third) : OnlyRead first third := by
  rcases early with ⟨_, earlyReads, onlyEarly, rfl⟩
  rcases late with ⟨incoming, lateReads, onlyLate, rfl⟩
  refine ⟨incoming, lateReads ++ earlyReads, ?_, ?_⟩
  · intro call among
    rcases List.mem_append.mp among with among | among
    · exact onlyLate call among
    · exact onlyEarly call among
  · simp only [List.append_assoc]

theorem OnlyRead.deadline {before after : Connection} (only : OnlyRead before after) :
    after.deadline = before.deadline := by
  rcases only with ⟨_, _, _, rfl⟩
  rfl

theorem onlyRead_read (asked : Nat) : Respects OnlyRead (onTransport (Transport.read asked)) := by
  intro before
  simp only [onTransport, Transport.read]
  cases before.transport.incoming.read asked with
  | ok data rest => exact ⟨rest, [.read asked (.ok data)], by simp, rfl⟩
  | error fault rest => exact ⟨rest, [.read asked (.error fault)], by simp, rfl⟩

theorem timedReader_tracks_untimed {start : Connection} (untimed : start.deadline = none) :
    timedReader.Tracks (fun connection => connection.transport.incoming) (OnlyRead start)
      (fun _ => False) where
  ok {asked before _ _} only done := by
    have read := (timedRead_of_untimed (only.deadline.trans untimed) asked).symm.trans done
    exact ⟨only.trans ((onlyRead_read asked).ok read), (onTransport_read_ok read).2⟩
  error {asked before _ _} only failed := by
    have read := (timedRead_of_untimed (only.deadline.trans untimed) asked).symm.trans failed
    exact ⟨only.trans ((onlyRead_read asked).error read), Or.inl (onTransport_read_error read).2⟩

theorem readOwed_zero (connection : Connection) : readOwed 0 connection = .ok [] connection := by
  have spent := Reader.drain_limited_spent timedReader
    (.withCapacity (min (UInt64.toNat 0) bodyRoom)) connection
  change timedReader.limited.drain _ (connection, UInt64.toNat 0) = _ at spent
  simp only [readOwed, spent]
  rfl

/-- What reading a body leaves: exactly its bytes are gone, or all data up to the stop. -/
theorem readOwed_untimed {before : Connection} (untimed : before.deadline = none) (size : UInt64) :
    ∃ after, OnlyRead before after ∧
      ((size.toNat ≤ before.outlook.data.length ∧
          readOwed size before = .ok (before.outlook.data.take size.toNat) after ∧
          after.transport.incoming = before.transport.incoming.beyond size.toNat) ∨
        (before.outlook.data.length < size.toNat ∧
          readOwed size before = .error (bodyError size before.outlook) after ∧
          after.transport.incoming = before.outlook.later)) := by
  have tracks := timedReader_tracks_untimed untimed
  have drained := tracks.drain_limited_cases (.withCapacity (min size.toNat bodyRoom))
    (before, size.toNat) (.refl before)
  have left := tracks.script_of_drain_limited (.withCapacity (min size.toNat bodyRoom))
    (before, size.toNat) (.refl before)
  simp only [readOwed]
  generalize timedReader.limited.drain (.withCapacity (min size.toNat bodyRoom))
    (before, size.toNat) = result at drained left ⊢
  -- The bytes that the drain starts from are those of the connection.
  change _ ∧ (size.toNat ≤ before.outlook.data.length ∧
    result.data = before.outlook.data.take size.toNat ∧ _ ∨
      before.outlook.data.length < size.toNat ∧ result.data = before.outlook.data ∧
        result.fault = before.outlook.stop ∧ _ ∨ _) at drained
  rcases drained with ⟨only, ⟨enough, data, fault, _⟩ | ⟨short, data, fault, rest⟩ | ⟨_, _, never⟩⟩
  · have whole : result.data.length = size.toNat := by
      rw [data, List.length_take, Nat.min_eq_left enough]
    refine ⟨result.state.1, only, Or.inl ⟨enough, ?_, left fault whole⟩⟩
    have complete : ¬result.data.length < size.toNat := by omega
    simp only [fault, if_neg complete]
    rw [data]
  · refine ⟨result.state.1, only, Or.inr ⟨short, ?_, rest⟩⟩
    cases ending : before.outlook.stop with
    | none => simp only [fault, ending, data, if_pos short, bodyError]
    | some stop => simp only [fault, ending, bodyError]
  · exact absurd never not_false

/-- A body is read to the byte. It is refused if it is over the limit, and costs nothing if it has
no bytes. Otherwise it is what arrives first, and what stands behind its last byte stays as it is;
or the stream stops before, and then everything before the stop is gone and the error says what the
stop was. -/
theorem body_is_read_exactly {before : Connection} (isOpen : before.closed = false)
    (untimed : before.deadline = none) (header : Header) :
    (∀ limit, before.bodyLimit = some limit → limit < header.bodySize →
        readBody header before = .error (.bodyTooLarge header.bodySize limit) before) ∧
      ((∀ limit, before.bodyLimit = some limit → header.bodySize ≤ limit) →
        (header.bodySize = 0 → readBody header before = .ok [] before) ∧
        ∃ after, OnlyRead before after ∧
          (header.bodySize.toNat ≤ before.outlook.data.length →
            readBody header before = .ok (before.outlook.data.take header.bodySize.toNat) after ∧
              after.transport.incoming =
                before.transport.incoming.beyond header.bodySize.toNat) ∧
          (before.outlook.data.length < header.bodySize.toNat →
            after.transport.incoming = before.outlook.later ∧
              (before.outlook.stop = none → ∃ received,
                readBody header before = .error (.truncatedBody header.bodySize received) after ∧
                  received.toNat = before.outlook.data.length) ∧
              ∀ fault, before.outlook.stop = some fault →
                readBody header before = .error (.io fault) after)) := by
  refine ⟨fun limit limited long => readBody_of_over isOpen limited long, ?_⟩
  intro within
  rw [readBody_of_within isOpen within]
  refine ⟨?_, ?_⟩
  · intro empty
    rw [empty]
    exact readOwed_zero before
  · rcases readOwed_untimed untimed header.bodySize with
      ⟨after, only, ⟨enough, done, left⟩ | ⟨short, failed, left⟩⟩
    · refine ⟨after, only, fun _ => ⟨done, left⟩, fun short => ?_⟩
      exact absurd enough (Nat.not_le.mpr short)
    · refine ⟨after, only, fun enough => absurd short (Nat.not_lt.mpr enough),
        fun _ => ⟨left, ?_, ?_⟩⟩
      · intro ended
        refine ⟨UInt64.ofNat before.outlook.data.length, ?_, ?_⟩
        · rw [failed, bodyError, ended]
        · exact UInt64.toNat_ofNat_of_lt (Nat.lt_trans short header.bodySize.toNat_lt)
      · intro fault stopped
        rw [failed, bodyError, stopped]

/-- A body of three bytes comes in two chunks with an interruption in between, and a reset stands
right behind a byte that is not its own. -/
theorem body_before_reset :
    let header := Header.forRequest "a" 3
    let before := bringing [.data 1 [2], .fault (.plain .interrupted), .data 3 [4],
      .fault (.plain .connectionReset)]
    before.closed = false ∧ before.deadline = none ∧
      ∃ after, readBody header before = .ok [1, 2, 3] after ∧
        after.transport.incoming = [.data 4 [], .fault (.plain .connectionReset)] := by
  intro header before
  have unlimited : ∀ limit, before.bodyLimit = some limit → header.bodySize ≤ limit := by
    intro limit limited
    cases limited
  have isOpen : before.closed = false := rfl
  rcases ((body_is_read_exactly isOpen rfl header).2 unlimited).2 with ⟨after, _, enough, _⟩
  rcases enough (by decide) with ⟨done, left⟩
  exact ⟨rfl, rfl, after, done, left⟩

end Connection

end Switchboard
