import Switchboard.Proofs.Connection.Punctual

/-!
# What it costs to read and write

Reading and writing repeat calls of the transport, and a call may be interrupted any number of
times. That this does not go on for ever is due to the scripts: every attempt takes a byte or a step
from one of them, or is the last one. So whoever reads or writes can be charged for the calls
(`Proceeds`). An attempt makes three of them at most, and each byte and each step pays for four.
What the bytes of a header leave of that is more than enough for the rest of a round.

A call after which nothing more is to be expected of the transport is final. It ends the operation
that has made it, and so there is no call behind it (`Ceases`).
-/

namespace Switchboard

namespace Transport

/-- Nothing is to be expected after the call: the stream has ended, or nothing was taken, or the
call has failed and was not just interrupted. -/
def Call.Final : Call → Prop
  | .read _ (.ok data) => data = []
  | .write _ (.ok taken) => taken = 0
  | .read _ (.error fault) | .write _ (.error fault) | .setTimeout _ (some fault) =>
      ¬fault.isInterrupted = true
  | _ => False

/-- The call is final, or it is the look at the clock that has found the deadline reached. -/
def Call.Decides (deadline : Option Instant) (call : Call) : Prop :=
  call.Final ∨ ∃ limit now, deadline = some limit ∧ call = .clock now ∧ limit.nanos ≤ now.nanos

end Transport

/-- The error is due to the transport or to the deadline. -/
def Error.External : Error → Prop
  | .disconnected | .truncatedBody .. | .io _ => True
  | _ => False

/-- Something holds of the state after a success, and something else after a failure. -/
def Leaves {ε σ α : Type} (done : σ → Prop) (failed : ε → σ → Prop) : EStateM.Result ε σ α → Prop
  | .ok _ after => done after
  | .error error after => failed error after

section

variable {ε σ α : Type} {done : σ → Prop} {failed : ε → σ → Prop} {result : EStateM.Result ε σ α}
  (leaves : Leaves done failed result) {after : σ}

include leaves

theorem Leaves.ok {value : α} (succeeded : result = .ok value after) : done after := by
  rwa [succeeded] at leaves

theorem Leaves.error {error : ε} (stopped : result = .error error after) : failed error after := by
  rwa [stopped] at leaves

end

/-! ## Readers -/

namespace Reader

variable {σ : Type}

/-- What is said about a state from which some bytes were read is kept by every read that is
followed by another one, and something else can be said after a read that is not. -/
structure Advances (reader : Reader σ) (going : Nat → σ → Prop) (halted : σ → Prop) : Prop where
  data : ∀ {count asked before first more after}, going count before →
    reader.read asked before = .ok (first :: more) after →
    going (count + (first :: more).length) after
  ended : ∀ {count asked before after}, going count before →
    reader.read asked before = .ok [] after → halted after
  interrupted : ∀ {count asked before fault after}, going count before →
    reader.read asked before = .error fault after → fault.isInterrupted = true → going count after
  failed : ∀ {count asked before fault after}, going count before →
    reader.read asked before = .error fault after → ¬fault.isInterrupted = true → halted after

namespace Advances

variable {reader : Reader σ} {going : Nat → σ → Prop} {halted : σ → Prop}

theorem readExact (advances : reader.Advances going halted) (count : Nat) {done : Nat} {state : σ}
    (start : going done state) :
    Leaves (going (done + count)) (fun _ => halted) (reader.readExact count state) := by
  fun_induction Reader.readExact reader count state generalizing done with
  | case1 state => exact start
  | case2 count state positive after step => exact advances.ended start step
  | case3 count state positive first more after step rest final inner ih =>
      have bound := reader.length_le step
      have whole : done + count = done + (first :: more).length +
          (count - (first :: more).length) := by omega
      rw [whole]
      exact (ih (advances.data start step)).ok inner
  | case4 count state positive first more after step fault final inner ih =>
      exact (ih (advances.data start step)).error inner
  | case5 count state positive fault after step interrupted ih =>
      exact ih (advances.interrupted start step interrupted)
  | case6 count state positive fault after step quiet => exact advances.failed start step quiet

/-- Draining a reader that ends after some bytes either brings all of them or does not go on. -/
theorem drain_limited (advances : reader.Advances going halted) (growth : Growth) (pair : σ × Nat) :
    ∀ done, going done pair.1 →
      ((reader.limited.drain growth pair).fault = none ∧
        (reader.limited.drain growth pair).data.length = pair.2 ∧
          going (done + pair.2) (reader.limited.drain growth pair).state.1) ∨
        (((reader.limited.drain growth pair).fault ≠ none ∨
            (reader.limited.drain growth pair).data.length < pair.2) ∧
          halted (reader.limited.drain growth pair).state.1) := by
  fun_induction Reader.drain reader.limited growth pair with
  | case1 growth pair after step =>
      intro done start
      rcases limited_read_ok step with ⟨spent, _, rfl⟩ | ⟨owed, inner, _⟩
      · left
        rw [spent]
        exact ⟨rfl, rfl, start⟩
      · exact Or.inr ⟨Or.inr owed, advances.ended start inner⟩
  | case2 growth pair first more after step later ih =>
      intro done start
      rcases limited_read_ok step with ⟨_, empty, _⟩ | ⟨owed, inner, left⟩
      · cases empty
      · have bound := Nat.le_trans (reader.length_le inner) (Nat.min_le_right _ _)
        simp only [List.length_append]
        rcases ih _ (advances.data start inner) with ⟨fault, length, going⟩ | ⟨lacking, halted⟩
        · rw [left] at length going
          refine Or.inl ⟨fault, ?_, ?_⟩
          · rw [length]
            omega
          · have whole : done + pair.2 = done + (first :: more).length +
                (pair.2 - (first :: more).length) := by
              omega
            rw [whole]
            exact going
        · refine Or.inr ⟨lacking.imp_right fun short => ?_, halted⟩
          have behind : later.data.length < after.2 := short
          omega
  | case3 growth pair fault after step interrupted ih =>
      intro done start
      rcases limited_read_error step with ⟨_, inner, left⟩
      rw [← left]
      exact ih done (advances.interrupted start inner interrupted)
  | case4 growth pair fault after step quiet =>
      intro done start
      rcases limited_read_error step with ⟨_, inner, _⟩
      exact Or.inr ⟨Or.inl (by simp), advances.failed start inner quiet⟩

end Advances

end Reader

namespace Connection

/-! ## Charging for calls -/

/-- What the scripts of a connection hold: bytes and steps that arrive, answers to writes, and
answers to settings of the time limit. -/
def means (connection : Connection) : Nat :=
  connection.budget + connection.transport.outgoing.length

/-- The connection after some calls, none of them final. They are paid for with what they have taken
from the scripts, and there is something left, or else a debt. -/
def Proceeds (left debt : Nat) (before after : Connection) : Prop :=
  ∃ calls, after.transport.journal = calls ++ before.transport.journal ∧
    (∀ call ∈ calls, ¬call.Final) ∧
    calls.length + 4 * after.means + left ≤ 4 * before.means + debt

/-- The connection after some calls, of which only the last one was decisive. -/
def Ceases (debt : Nat) (before after : Connection) : Prop :=
  ∃ call past, after.transport.journal = call :: past ++ before.transport.journal ∧
    call.Decides after.deadline ∧ (∀ other ∈ past, ¬other.Final) ∧
    (call :: past).length ≤ 4 * before.means + debt

/-- The connection after something has failed, for an external reason or for another one. -/
def Fails (external : Prop) (debt : Nat) (before after : Connection) : Prop :=
  (external ∧ Ceases debt before after) ∨ (¬external ∧ Proceeds 0 debt before after)

/-- The connection after a failure: an interruption is paid for, and nothing comes behind anything
else. -/
structure Falters (debt : Nat) (fault : Fault) (before after : Connection) : Prop where
  again : fault.isInterrupted = true → Proceeds 0 0 before after
  ceases : ¬fault.isInterrupted = true → Ceases debt before after

theorem Proceeds.refl (connection : Connection) : Proceeds 0 0 connection connection :=
  ⟨[], rfl, by simp, by simp⟩

theorem Proceeds.weaken {left debt less more : Nat} {before after : Connection}
    (proceeds : Proceeds left debt before after) (fair : less + debt ≤ left + more) :
    Proceeds less more before after := by
  rcases proceeds with ⟨calls, journal, going, paid⟩
  exact ⟨calls, journal, going, by omega⟩

theorem Proceeds.trans {left debt more owed : Nat} {first second third : Connection}
    (early : Proceeds left debt first second) (late : Proceeds more owed second third) :
    Proceeds (left + more) (debt + owed) first third := by
  rcases early with ⟨past, journal, going, paid⟩
  rcases late with ⟨calls, grown, onward, charged⟩
  refine ⟨calls ++ past, ?_, ?_, ?_⟩
  · rw [grown, journal, List.append_assoc]
  · exact List.forall_mem_append.mpr ⟨onward, going⟩
  · rw [List.length_append]
    omega

theorem Proceeds.ceases {left debt owed : Nat} {first second third : Connection}
    (early : Proceeds left debt first second) (late : Ceases owed second third) :
    Ceases (debt + owed) first third := by
  rcases early with ⟨past, journal, going, paid⟩
  rcases late with ⟨call, calls, grown, decides, onward, charged⟩
  refine ⟨call, calls ++ past, ?_, decides, ?_, ?_⟩
  · rw [grown, journal, List.cons_append, List.cons_append, List.append_assoc]
  · exact List.forall_mem_append.mpr ⟨onward, going⟩
  · rw [List.length_cons] at charged ⊢
    rw [List.length_append]
    omega

theorem Ceases.weaken {debt more : Nat} {before after : Connection}
    (ceases : Ceases debt before after) (fair : debt ≤ more) : Ceases more before after := by
  rcases ceases with ⟨call, past, journal, decides, going, charged⟩
  exact ⟨call, past, journal, decides, going, by omega⟩

theorem Falters.weaken {debt more : Nat} {fault : Fault} {before after : Connection}
    (falters : Falters debt fault before after) (fair : debt ≤ more) :
    Falters more fault before after :=
  ⟨falters.again, fun quiet => (falters.ceases quiet).weaken fair⟩

theorem Proceeds.fails {external : Prop} {left debt owed : Nat} {first second third : Connection}
    (early : Proceeds left debt first second) (late : Fails external owed second third) :
    Fails external (debt + owed) first third := by
  rcases late with ⟨outside, ceases⟩ | ⟨inside, proceeds⟩
  · exact Or.inl ⟨outside, early.ceases ceases⟩
  · exact Or.inr ⟨inside, (early.trans proceeds).weaken (by omega)⟩

theorem Fails.weaken {external : Prop} {debt more : Nat} {before after : Connection}
    (fails : Fails external debt before after) (fair : debt ≤ more) :
    Fails external more before after := by
  rcases fails with ⟨outside, ceases⟩ | ⟨inside, proceeds⟩
  · exact Or.inl ⟨outside, ceases.weaken fair⟩
  · exact Or.inr ⟨inside, proceeds.weaken (by omega)⟩

theorem Proceeds.leaves {α : Type} {debt owed : Nat} {first second : Connection}
    (early : Proceeds 0 0 first second) {result : EStateM.Result Fault Connection α}
    (late : Leaves (Proceeds 0 debt second) (fun _ => Ceases owed second) result) :
    Leaves (Proceeds 0 debt first) (fun _ => Ceases owed first) result := by
  cases result with
  | ok value after => exact (early.trans late).weaken (by omega)
  | error fault after => exact (early.ceases late).weaken (by omega)

/-- The calls that were made until something ended, for an external reason or for another one. The
latest call comes first. -/
structure Tally (external : Prop) (debt : Nat) (before after : Connection)
    (calls : List Transport.Call) : Prop where
  journal : after.transport.journal = calls ++ before.transport.journal
  paid : calls.length ≤ 4 * before.means + debt
  /-- Nothing is called after a call that is final. -/
  last : ∀ later call earlier, calls = later ++ call :: earlier → call.Final → later = []
  decided : external → ∃ call earlier, calls = call :: earlier ∧ call.Decides after.deadline
  undecided : ¬external → ∀ call ∈ calls, ¬call.Final

theorem Fails.exists_tally {external : Prop} {debt : Nat} {before after : Connection}
    (fails : Fails external debt before after) :
    ∃ calls, Tally external debt before after calls := by
  rcases fails with ⟨outside, call, past, journal, decides, going, paid⟩ |
    ⟨inside, calls, journal, going, paid⟩
  · refine ⟨call :: past, journal, paid, ?_, fun _ => ⟨call, past, rfl, decides⟩, absurd outside⟩
    rintro (_ | ⟨first, later⟩) other earlier split final
    · rfl
    · rw [List.cons_append, List.cons.injEq] at split
      refine absurd final (going other ?_)
      rw [split.2]
      exact List.mem_append_right _ List.mem_cons_self
  · refine ⟨calls, journal, by omega, ?_, fun outside => absurd outside inside, fun _ => going⟩
    rintro later other earlier rfl final
    exact absurd final (going other (List.mem_append_right _ List.mem_cons_self))

/-- Whatever is refused without a call costs nothing. -/
theorem fails_at_once {external : Prop} (inside : ¬external) (debt : Nat)
    (connection : Connection) :
    Fails external debt connection connection :=
  Or.inr ⟨inside, (Proceeds.refl connection).weaken (by omega)⟩

/-! ## Single calls -/

theorem Proceeds.of_call {call : Transport.Call} {left debt : Nat} {before after : Connection}
    (journal : after.transport.journal = call :: before.transport.journal) (going : ¬call.Final)
    (paid : 1 + 4 * after.means + left ≤ 4 * before.means + debt) :
    Proceeds left debt before after :=
  ⟨[call], journal, by simpa using going, paid⟩

theorem Ceases.of_call {call : Transport.Call} {before after : Connection}
    (journal : after.transport.journal = call :: before.transport.journal)
    (decides : call.Decides after.deadline) : Ceases 1 before after :=
  ⟨call, [], journal, decides, by simp, by simp⟩

/-- Arming looks at the clock and sets a time limit, which takes a step from a script if there is
one. -/
theorem proceeds_arm {before after : Connection} (done : arm before = .ok () after) :
    Proceeds 0 2 before after := by
  rcases budget_of_arm_ok done with ⟨paid, outgoing, _⟩
  have cheap : after.means ≤ before.means := by
    simp only [means, outgoing]
    omega
  cases dated : before.deadline with
  | none =>
      rw [arm_of_untimed dated] at done
      cases done
      exact (Proceeds.refl before).weaken (by omega)
  | some deadline =>
      rcases arm_of_dated dated with
        ⟨_, late⟩ | ⟨limit, _, other, _, _, journal, ⟨rfl, armed⟩ | ⟨fault, _, failed⟩⟩
      · rw [late] at done
        cases done
      · rw [armed] at done
        cases done
        refine ⟨[.setTimeout (some limit) none, .clock before.transport.clock.now], journal, ?_, ?_⟩
        · simp [Transport.Call.Final]
        · simp only [List.length_cons, List.length_nil]
          omega
      · rw [failed] at done
        cases done

/-- Arming looks at the clock, and that may be all. An interruption takes a step from a script. -/
theorem arm_falters {before after : Connection} {fault : Fault}
    (failed : arm before = .error fault after) :
    Falters 2 fault before after := by
  have kept := (arm_error failed).1
  cases dated : before.deadline with
  | none =>
      rw [arm_of_untimed dated] at failed
      cases failed
  | some deadline =>
      rcases arm_of_dated dated with
        ⟨reached, late⟩ | ⟨limit, _, other, _, _, journal, ⟨_, armed⟩ | ⟨reason, rfl, unset⟩⟩
      · rw [late] at failed
        cases failed
        constructor
        · intro interrupted
          cases interrupted
        · intro quiet
          refine Ceases.weaken (.of_call rfl ?_) (Nat.le_succ 1)
          exact Or.inr ⟨deadline, _, dated, rfl, reached⟩
      · rw [armed] at failed
        cases failed
      · have attempted := failed
        rw [unset] at attempted
        cases attempted
        constructor
        · intro interrupted
          have paid := (budget_of_arm_interrupted failed interrupted).1
          have fewer := kept.outgoing.length_le
          refine ⟨[.setTimeout (some limit) (some fault), .clock before.transport.clock.now],
            journal, ?_, ?_⟩
          · simp [Transport.Call.Final, interrupted]
          · simp only [means, List.length_cons, List.length_nil]
            omega
        · intro quiet
          exact ⟨_, [.clock _], journal, Or.inl quiet, by simp [Transport.Call.Final], by simp⟩

theorem entered_of_read_ok {asked : Nat} {before after : Connection} {data : Bytes}
    (done : onTransport (Transport.read asked) before = .ok data after) :
    Entered (.read asked (.ok data)) before after ∧ after.means + data.length ≤ before.means := by
  simp only [onTransport, Transport.read] at done
  cases step : before.transport.incoming.read asked with
  | error fault rest =>
      rw [step] at done
      cases done
  | ok bytes rest =>
      rw [step] at done
      cases done
      have paid := Source.budget_of_read_ok step
      refine ⟨⟨rfl, rfl, rfl, rfl, rfl⟩, ?_⟩
      simp only [means, budget, Transport.budget]
      omega

theorem entered_of_read_error {asked : Nat} {before after : Connection} {fault : Fault}
    (failed : onTransport (Transport.read asked) before = .error fault after) :
    Entered (.read asked (.error fault)) before after ∧ after.means < before.means := by
  simp only [onTransport, Transport.read] at failed
  cases step : before.transport.incoming.read asked with
  | ok bytes rest =>
      rw [step] at failed
      cases failed
  | error other rest =>
      rw [step] at failed
      cases failed
      have paid := Source.budget_of_read_error step
      refine ⟨⟨rfl, rfl, rfl, rfl, rfl⟩, ?_⟩
      simp only [means, budget, Transport.budget]
      omega

/-- A write that takes only a part has been told so by its script. -/
theorem entered_of_write_ok {offered : Bytes} {before after : Connection} {taken : Nat}
    (done : onTransport (Transport.write offered) before = .ok taken after) :
    Entered (.write offered (.ok taken)) before after ∧ after.means ≤ before.means ∧
      (taken < offered.length → after.means < before.means) := by
  simp only [onTransport, Transport.write] at done
  rcases script : before.transport.outgoing with _ | ⟨count | fault, later⟩
  · rw [script] at done
    cases done
    exact ⟨⟨rfl, rfl, rfl, rfl, rfl⟩, Nat.le_refl _, fun part => absurd part (Nat.lt_irrefl _)⟩
  · rw [script] at done
    cases done
    refine ⟨⟨rfl, rfl, rfl, rfl, rfl⟩, ?_, fun _ => ?_⟩
    · simp [means, script, budget, Transport.budget]
    · simp [means, script, budget, Transport.budget]
  · rw [script] at done
    cases done

theorem entered_of_write_error {offered : Bytes} {before after : Connection} {fault : Fault}
    (failed : onTransport (Transport.write offered) before = .error fault after) :
    Entered (.write offered (.error fault)) before after ∧ after.means < before.means := by
  simp only [onTransport, Transport.write] at failed
  rcases script : before.transport.outgoing with _ | ⟨count | other, later⟩
  · rw [script] at failed
    cases failed
  · rw [script] at failed
    cases failed
  · rw [script] at failed
    cases failed
    refine ⟨⟨rfl, rfl, rfl, rfl, rfl⟩, ?_⟩
    simp [means, script, budget, Transport.budget]

/-! ## Attempts -/

section

variable {α : Type} (action : EStateM Fault Connection α) {before after : Connection}

/-- The transport is asked for something once arming has succeeded. -/
theorem asked_of_ok {value : α} (done : (arm >>= fun _ => action) before = .ok value after) :
    ∃ armed, Proceeds 0 2 before armed ∧ action armed = .ok value after := by
  simp only [Bind.bind, EStateM.bind] at done
  split at done
  · next armed step => exact ⟨armed, proceeds_arm step, done⟩
  · cases done

theorem asked_or_unarmed_of_error {fault : Fault}
    (failed : (arm >>= fun _ => action) before = .error fault after) :
    (∃ armed, Proceeds 0 2 before armed ∧ action armed = .error fault after) ∨
      Falters 2 fault before after := by
  simp only [Bind.bind, EStateM.bind] at failed
  split at failed
  · next armed step => exact Or.inl ⟨armed, proceeds_arm step, failed⟩
  · next step =>
    cases failed
    exact Or.inr (arm_falters step)

end

/-- An attempt falters while it is armed, or with the answer of the transport. -/
theorem attempt_falters {α : Type} (action : EStateM Fault Connection α) {before after : Connection}
    {fault : Fault} {call : Transport.Call} (final : call.Final ↔ ¬fault.isInterrupted = true)
    (entered : ∀ armed, action armed = .error fault after →
      Entered call armed after ∧ after.means < armed.means)
    (failed : (arm >>= fun _ => action) before = .error fault after) :
    Falters 3 fault before after := by
  rcases asked_or_unarmed_of_error action failed with ⟨armed, ready, refused⟩ | unarmed
  · rcases entered armed refused with ⟨last, paid⟩
    constructor
    · intro interrupted
      have tried : Proceeds 2 0 armed after :=
        .of_call last.journal (fun ends => final.mp ends interrupted) (by omega)
      exact (ready.trans tried).weaken (by omega)
    · intro quiet
      exact (ready.ceases (.of_call last.journal (Or.inl (final.mpr quiet)))).weaken (by omega)
  · exact unarmed.weaken (by omega)

theorem timedRead_falters {asked : Nat} {before after : Connection} {fault : Fault}
    (failed : timedRead asked before = .error fault after) : Falters 3 fault before after :=
  attempt_falters (onTransport (Transport.read asked)) Iff.rfl
    (fun _ => entered_of_read_error) failed

theorem timedWrite_falters {offered : Bytes} {before after : Connection} {fault : Fault}
    (failed : timedWrite offered before = .error fault after) : Falters 3 fault before after :=
  attempt_falters (onTransport (Transport.write offered)) Iff.rfl
    (fun _ => entered_of_write_error) failed

/-- Each attempt to read pays for itself with the bytes that it brings or with an interruption,
unless it is the last one. -/
theorem timedReader_advances (start : Connection) :
    timedReader.Advances (fun count => Proceeds count 0 start) (Ceases 3 start) where
  data := by
    intro count asked before first more after going done
    rcases asked_of_ok (onTransport (Transport.read asked)) done with ⟨armed, ready, read⟩
    rcases entered_of_read_ok read with ⟨entered, paid⟩
    rw [List.length_cons] at paid ⊢
    -- There are three calls at most, and every byte pays for four.
    have brought : Proceeds (more.length + 3) 0 armed after :=
      .of_call entered.journal (List.cons_ne_nil _ _) (by omega)
    exact (going.trans (ready.trans brought)).weaken (by omega)
  ended := by
    intro count asked before after going done
    rcases asked_of_ok (onTransport (Transport.read asked)) done with ⟨armed, ready, read⟩
    have last := Ceases.of_call (entered_of_read_ok read).1.journal (Or.inl rfl)
    exact (going.ceases (ready.ceases last)).weaken (by omega)
  interrupted going failed interrupted :=
    (going.trans ((timedRead_falters failed).again interrupted)).weaken (by omega)
  failed going failed quiet :=
    (going.ceases ((timedRead_falters failed).ceases quiet)).weaken (by omega)

/-- A write that takes something is paid for if it leaves something. -/
theorem proceeds_timedWrite {offered : Bytes} {before after : Connection} {taken : Nat}
    (done : timedWrite offered before = .ok (taken + 1) after) :
    Proceeds 0 3 before after ∧ (taken + 1 < offered.length → Proceeds 0 0 before after) := by
  rcases asked_of_ok (onTransport (Transport.write offered)) done with ⟨armed, ready, written⟩
  rcases entered_of_write_ok written with ⟨entered, cheap, paid⟩
  have going : ¬(Transport.Call.write offered (.ok (taken + 1))).Final := Nat.succ_ne_zero taken
  constructor
  · have tried : Proceeds 0 1 armed after := .of_call entered.journal going (by omega)
    exact (ready.trans tried).weaken (by omega)
  · intro part
    have less := paid part
    have tried : Proceeds 2 0 armed after := .of_call entered.journal going (by omega)
    exact (ready.trans tried).weaken (by omega)

theorem ceases_timedWrite {offered : Bytes} {before after : Connection}
    (done : timedWrite offered before = .ok 0 after) : Ceases 3 before after := by
  rcases asked_of_ok (onTransport (Transport.write offered)) done with ⟨armed, ready, written⟩
  have last := Ceases.of_call (entered_of_write_ok written).1.journal (Or.inl rfl)
  exact (ready.ceases last).weaken (by omega)

/-- Writing everything costs what its last write costs. The ones before it have been told to take
only a part. -/
theorem writeAll_leaves (offered : Bytes) (before : Connection) :
    Leaves (Proceeds 0 3 before) (fun _ => Ceases 3 before)
      (timedWriter.writeAll offered before) := by
  fun_induction Writer.writeAll timedWriter offered before with
  | case1 before => exact (Proceeds.refl before).weaken (by omega)
  | case2 before first more after step => exact ceases_timedWrite step
  | case3 before first more taken middle step ih =>
      rcases proceeds_timedWrite step with ⟨last, part⟩
      by_cases rest : taken < more.length
      · have paid := part (by rw [List.length_cons]; omega)
        exact paid.leaves ih
      · -- Nothing is left, so no other write follows.
        have nothing : more.drop taken = [] := List.drop_of_length_le (by omega)
        rw [nothing, Writer.writeAll_eq]
        exact last
  | case4 before first more fault middle step interrupted ih =>
      have onward := (timedWrite_falters step).again interrupted
      exact onward.leaves ih
  | case5 before first more fault after step quiet => exact (timedWrite_falters step).ceases quiet

/-! ## Messages -/

/-- A message has cost so much, or it has failed. -/
def Costs {α : Type} (left debt : Nat) (before : Connection) :
    EStateM.Result Error Connection α → Prop :=
  Leaves (Proceeds left debt before) fun error => Fails error.External 3 before

theorem external_interrupted (fault : Fault) : (Header.interrupted fault).External := by
  unfold Header.interrupted
  split <;> trivial

/-- A header has more bytes than its reading can cost. -/
theorem readHeader_costs (before : Connection) :
    Costs Header.width 0 before (readHeader before) := by
  cases closed : before.closed with
  | true =>
      rw [readHeader_of_closed closed]
      exact fails_at_once not_false _ _
  | false =>
      have left := (timedReader_advances before).readExact Header.width (.refl before)
      simp only [readHeader, Bind.bind, EStateM.bind, ensureOpen_of_open closed,
        EStateM.adaptExcept]
      cases step : timedReader.readExact Header.width before with
      | error fault stopped => exact Or.inl ⟨external_interrupted fault, left.error step⟩
      | ok bytes read =>
          have complete : ¬bytes.length < Header.width := by
            rw [(Reader.readExact_ok step).1]
            exact Nat.lt_irrefl _
          have proceeds := left.ok step
          rw [Nat.zero_add] at proceeds
          simp only [Header.decode, if_neg complete]
          exact proceeds

theorem readOwed_costs (size : UInt64) (before : Connection) :
    Costs 0 0 before (readOwed size before) := by
  have drained := (timedReader_advances before).drain_limited
    (.withCapacity (min size.toNat bodyRoom))
    (before, size.toNat) 0 (.refl before)
  simp only [readOwed]
  generalize timedReader.limited.drain (.withCapacity (min size.toNat bodyRoom))
    (before, size.toNat) =
    result at drained ⊢
  rcases drained with ⟨fault, length, proceeds⟩ | ⟨lacking, ceases⟩
  · have complete : ¬result.data.length < size.toNat := Nat.not_lt.mpr (Nat.le_of_eq length.symm)
    simp only [fault, if_neg complete]
    exact proceeds.weaken (by omega)
  · cases fault : result.fault with
    | some fault => exact Or.inl ⟨trivial, ceases⟩
    | none =>
        have short : result.data.length < size.toNat := lacking.resolve_left (not_not_intro fault)
        simp only [if_pos short]
        exact Or.inl ⟨trivial, ceases⟩

theorem readBody_costs (header : Header) (before : Connection) :
    Costs 0 0 before (readBody header before) := by
  cases closed : before.closed with
  | true =>
      rw [readBody_of_closed closed]
      exact fails_at_once not_false _ _
  | false =>
      by_cases oversized : ∃ limit, before.bodyLimit = some limit ∧ limit < header.bodySize
      · rcases oversized with ⟨limit, limited, long⟩
        rw [readBody_of_over closed limited long]
        exact fails_at_once not_false _ _
      · have within : ∀ limit, before.bodyLimit = some limit → header.bodySize ≤ limit :=
          fun limit limited =>
          UInt64.not_lt.mp fun long => oversized ⟨limit, limited, long⟩
        rw [readBody_of_within closed within]
        exact readOwed_costs header.bodySize before

theorem writeMessage_costs (message : Bytes) (before : Connection) :
    Costs 0 3 before (writeMessage message before) := by
  cases closed : before.closed with
  | true =>
      rw [writeMessage_of_closed closed]
      exact fails_at_once not_false _ _
  | false =>
      have left := writeAll_leaves message before
      rw [writeMessage_of_open closed]
      cases step : timedWriter.writeAll message before with
      | ok value written => exact left.ok step
      | error fault stopped => exact Or.inl ⟨trivial, left.error step⟩

end Connection

end Switchboard
