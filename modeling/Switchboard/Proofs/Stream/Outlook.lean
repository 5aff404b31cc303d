import Switchboard.Stream.Delivery
import Switchboard.Stream.Reader

/-!
# What a script holds for its readers

Whoever reads a script until there is enough gets the data up to the first stop: an end of stream,
or a fault that is no interruption. How the data are cut into chunks and where they are interrupted
makes no difference. The outlook of a script says what matters of it: the data before the stop, the
stop, and the steps behind it.

The statements about exact reading and about draining are made for every reader that tracks a
script. Such a reader does what its script says, except that it may also be interrupted, or refuse,
on its own account.
-/

namespace Switchboard

namespace Source

/-- A script as far as it matters up to the first stop. -/
structure Outlook where
  /-- The data before the stop. -/
  data : Bytes
  /-- The fault at the stop; none if the stream ends there. -/
  stop : Option Fault
  /-- The steps behind the stop. -/
  later : Source

/-- The outlook with more data in front. -/
def Outlook.prepend (data : Bytes) (outlook : Outlook) : Outlook :=
  { outlook with data := data ++ outlook.data }

/-- The outlook after some of the data have been read. -/
def Outlook.drop (count : Nat) (outlook : Outlook) : Outlook :=
  { outlook with data := outlook.data.drop count }

/-- What a script holds up to its first stop. -/
def outlook : Source → Outlook
  | [] => ⟨[], none, []⟩
  | .ended :: later => ⟨[], none, later⟩
  | .fault fault :: later =>
      if fault.isInterrupted then outlook later else ⟨[], some fault, later⟩
  | .data first rest :: later => (outlook later).prepend (first :: rest)

theorem Outlook.prepend_prepend (left right : Bytes) (outlook : Outlook) :
    (outlook.prepend right).prepend left = outlook.prepend (left ++ right) := by
  simp [prepend]

@[simp]
theorem Outlook.prepend_data (data : Bytes) (outlook : Outlook) :
    (outlook.prepend data).data = data ++ outlook.data := rfl

/-- Reading past what was put in front leads into the outlook behind it. -/
theorem Outlook.drop_prepend {data : Bytes} {count : Nat} (past : data.length ≤ count)
    (outlook : Outlook) :
    (outlook.prepend data).drop count = outlook.drop (count - data.length) := by
  simp [drop, prepend, List.drop_append, past]

/-- What was read can be put back in front. -/
theorem Outlook.prepend_take_drop (outlook : Outlook) (count : Nat) :
    (outlook.drop count).prepend (outlook.data.take count) = outlook := by
  simp [drop, prepend]

theorem Outlook.take_prepend {data : Bytes} {count : Nat} (past : data.length ≤ count)
    (outlook : Outlook) :
    (outlook.prepend data).data.take count = data ++ outlook.data.take (count - data.length) := by
  rw [prepend_data, List.take_append, List.take_of_length_le past]

theorem outlook_ofBytes_append (data : Bytes) (later : Source) :
    outlook (ofBytes data ++ later) = (outlook later).prepend data := by
  cases data <;> rfl

/-- A delivery has its bytes in view and ends after them. -/
theorem Delivers.outlook_eq {bytes : Bytes} {source : Source} (delivery : Delivers bytes source) :
    source.outlook = ⟨bytes, none, []⟩ := by
  induction delivery with
  | done => rfl
  | chunk first rest _ ih => rw [outlook, ih, Outlook.prepend]
  | interruption passing _ ih => rw [outlook, if_pos passing, ih]

/-- All data of a script lie before its stop or behind it. -/
theorem bytes_eq_outlook (source : Source) :
    source.bytes = source.outlook.data ++ source.outlook.later.bytes := by
  induction source with
  | nil => rfl
  | cons step later ih =>
      cases step with
      | ended => simp [bytes, outlook, Step.bytes]
      | fault fault =>
          by_cases passing : fault.isInterrupted = true
          · simpa [bytes, outlook, Step.bytes, passing] using ih
          · simp [bytes, outlook, Step.bytes, passing]
      | data first rest =>
          rw [outlook, Outlook.prepend, List.append_assoc, ← ih]
          rfl

/-- A read that brings data takes them from the front. -/
theorem outlook_of_read_data {asked : Nat} {source rest : Source} {first : UInt8} {more : Bytes}
    (done : read asked source = .ok (first :: more) rest) :
    source.outlook = rest.outlook.prepend (first :: more) := by
  match source, asked with
  | [], _ => cases done
  | .ended :: _, _ => cases done
  | .fault _ :: _, _ => cases done
  | .data _ _ :: _, 0 => cases done
  | .data first' rest' :: later, asked + 1 =>
      simp only [read, EStateM.Result.ok.injEq, List.cons.injEq] at done
      rcases done with ⟨⟨rfl, rfl⟩, rfl⟩
      rw [outlook_ofBytes_append, Outlook.prepend_prepend, List.cons_append,
        List.take_append_drop, outlook]

/-- A read that brings nothing has met an end. -/
theorem outlook_of_read_nil {asked : Nat} {source rest : Source} (positive : 0 < asked)
    (done : read asked source = .ok [] rest) : source.outlook = ⟨[], none, rest⟩ := by
  match source, asked with
  | [], _ =>
      cases done
      rfl
  | .ended :: _, _ =>
      cases done
      rfl
  | .fault _ :: _, _ => cases done
  | .data _ _ :: _, 0 => omega
  | .data _ _ :: _, _ + 1 => cases done

/-- A read that fails has met a fault. -/
theorem outlook_of_read_error {asked : Nat} {source rest : Source} {fault : Fault}
    (failed : read asked source = .error fault rest) :
    source.outlook = if fault.isInterrupted then rest.outlook else ⟨[], some fault, rest⟩ := by
  match source, asked with
  | [], _ => cases failed
  | .ended :: _, _ => cases failed
  | .fault _ :: _, _ =>
      cases failed
      rfl
  | .data _ _ :: _, 0 => cases failed
  | .data _ _ :: _, _ + 1 => cases failed

end Source

namespace Reader

variable {σ : Type}

/-- From good states the reader reads the script at which the state stands. On its own account it
may be interrupted, which leaves the script alone, or refuse. -/
structure Tracks (reader : Reader σ) (script : σ → Source) (good : σ → Prop)
    (refused : Fault → Prop) : Prop where
  ok : ∀ {asked before data after}, good before → reader.read asked before = .ok data after →
    good after ∧ Source.read asked (script before) = .ok data (script after)
  error : ∀ {asked before fault after}, good before →
    reader.read asked before = .error fault after →
      good after ∧
        (Source.read asked (script before) = .error fault (script after) ∨
          (fault.isInterrupted = true ∧ script after = script before) ∨
          (¬fault.isInterrupted = true ∧ refused fault))

/-- A read of the reader that ends is a read of the reader below, as long as bytes are left. -/
theorem limited_read_ok {reader : Reader σ} {asked : Nat} {before after : σ × Nat} {data : Bytes}
    (done : reader.limited.read asked before = .ok data after) :
    (before.2 = 0 ∧ data = [] ∧ after = before) ∨
      (0 < before.2 ∧ reader.read (min asked before.2) before.1 = .ok data after.1 ∧
        after.2 = before.2 - data.length) := by
  simp only [limited] at done
  split at done
  · next spent =>
    cases done
    exact Or.inl ⟨spent, rfl, rfl⟩
  · next owed =>
    split at done
    · next inner =>
      cases done
      exact Or.inr ⟨Nat.pos_of_ne_zero owed, inner, rfl⟩
    · cases done

theorem limited_read_error {reader : Reader σ} {asked : Nat} {before after : σ × Nat}
    {fault : Fault} (failed : reader.limited.read asked before = .error fault after) :
    0 < before.2 ∧ reader.read (min asked before.2) before.1 = .error fault after.1 ∧
      after.2 = before.2 := by
  simp only [limited] at failed
  split at failed
  · cases failed
  · next owed =>
    split at failed
    · cases failed
    · next inner =>
      cases failed
      exact ⟨Nat.pos_of_ne_zero owed, inner, rfl⟩

namespace Tracks

variable {reader : Reader σ} {script : σ → Source} {good : σ → Prop} {refused : Fault → Prop}

/-- Exact reading returns the data that the script has first, or fails with what stands before there
are enough of them. -/
theorem readExact_cases (tracks : reader.Tracks script good refused) (count : Nat) {state : σ}
    (isGood : good state) :
    (∃ final, reader.readExact count state = .ok ((script state).outlook.data.take count) final ∧
        count ≤ (script state).outlook.data.length ∧ good final ∧
        (script final).outlook = (script state).outlook.drop count) ∨
      (∃ final, reader.readExact count state =
            .error ((script state).outlook.stop.getD .unfilled) final ∧
          (script state).outlook.data.length < count ∧ good final ∧
          script final = (script state).outlook.later) ∨
      ∃ fault final, reader.readExact count state = .error fault final ∧ refused fault ∧
        good final := by
  fun_induction Reader.readExact reader count state with
  | case1 state => exact Or.inl ⟨state, rfl, Nat.zero_le _, isGood, rfl⟩
  | case2 count state positive after step =>
      rcases tracks.ok isGood step with ⟨goodAfter, same⟩
      rw [Source.outlook_of_read_nil (Nat.pos_of_ne_zero positive) same]
      exact Or.inr (Or.inl ⟨after, rfl, Nat.pos_of_ne_zero positive, goodAfter, rfl⟩)
  | case3 count state positive first more after step rest final inner ih =>
      rcases tracks.ok isGood step with ⟨goodAfter, same⟩
      have bound := reader.length_le step
      rw [Source.outlook_of_read_data same]
      rcases ih goodAfter with ⟨final', done, enough, goodFinal, left⟩ |
        ⟨final', failed, _⟩ | ⟨fault, final', failed, _⟩
      · rw [inner] at done
        cases done
        refine Or.inl ⟨final, ?_, ?_, goodFinal, ?_⟩
        · rw [Source.Outlook.take_prepend bound]
        · rw [Source.Outlook.prepend_data, List.length_append]
          omega
        · rw [left, Source.Outlook.drop_prepend bound]
      · rw [inner] at failed
        cases failed
      · rw [inner] at failed
        cases failed
  | case4 count state positive first more after step fault final inner ih =>
      rcases tracks.ok isGood step with ⟨goodAfter, same⟩
      have bound := reader.length_le step
      rw [Source.outlook_of_read_data same]
      rcases ih goodAfter with ⟨final', done, _⟩ | ⟨final', failed, short, goodFinal, left⟩ |
        ⟨fault', final', failed, isRefused, goodFinal⟩
      · rw [inner] at done
        cases done
      · rw [inner] at failed
        cases failed
        refine Or.inr (Or.inl ⟨final, rfl, ?_, goodFinal, left⟩)
        rw [Source.Outlook.prepend_data, List.length_append]
        omega
      · rw [inner] at failed
        cases failed
        exact Or.inr (Or.inr ⟨fault, final, rfl, isRefused, goodFinal⟩)
  | case5 count state positive fault after step interrupted ih =>
      rcases tracks.error isGood step with ⟨goodAfter, same | ⟨_, same⟩ | ⟨quiet, _⟩⟩
      · rw [Source.outlook_of_read_error same, if_pos interrupted]
        exact ih goodAfter
      · rw [← same]
        exact ih goodAfter
      · exact absurd interrupted quiet
  | case6 count state positive fault after step quiet =>
      rcases tracks.error isGood step with ⟨goodAfter, same | ⟨interrupted, _⟩ | ⟨_, isRefused⟩⟩
      · rw [Source.outlook_of_read_error same, if_neg quiet]
        exact Or.inr (Or.inl ⟨after, rfl, Nat.pos_of_ne_zero positive, goodAfter, rfl⟩)
      · exact absurd interrupted quiet
      · exact Or.inr (Or.inr ⟨fault, after, rfl, isRefused, goodAfter⟩)

/-- Draining a reader that ends after some bytes brings the data that the script has first, as far
as they reach. Only if there are fewer does the stop matter. -/
theorem drain_limited_cases (tracks : reader.Tracks script good refused) (growth : Growth)
    (pair : σ × Nat) (isGood : good pair.1) :
    good (reader.limited.drain growth pair).state.1 ∧
      ((pair.2 ≤ (script pair.1).outlook.data.length ∧
          (reader.limited.drain growth pair).data = (script pair.1).outlook.data.take pair.2 ∧
          (reader.limited.drain growth pair).fault = none ∧
          (script (reader.limited.drain growth pair).state.1).outlook =
            (script pair.1).outlook.drop pair.2) ∨
        ((script pair.1).outlook.data.length < pair.2 ∧
          (reader.limited.drain growth pair).data = (script pair.1).outlook.data ∧
          (reader.limited.drain growth pair).fault = (script pair.1).outlook.stop ∧
          script (reader.limited.drain growth pair).state.1 = (script pair.1).outlook.later) ∨
        ∃ fault, (reader.limited.drain growth pair).fault = some fault ∧ refused fault) := by
  fun_induction Reader.drain reader.limited growth pair with
  | case1 growth pair after step =>
      rcases limited_read_ok step with ⟨spent, _, rfl⟩ | ⟨owed, inner, _⟩
      · refine ⟨isGood, Or.inl ?_⟩
        rw [spent]
        exact ⟨Nat.zero_le _, rfl, rfl, rfl⟩
      · rcases tracks.ok isGood inner with ⟨goodAfter, same⟩
        refine ⟨goodAfter, Or.inr (Or.inl ?_)⟩
        have positive := growth.offer_pos
        rw [Source.outlook_of_read_nil (by omega) same]
        exact ⟨owed, rfl, rfl, rfl⟩
  | case2 growth pair first more after step later ih =>
      rcases limited_read_ok step with ⟨_, empty, _⟩ | ⟨owed, inner, left⟩
      · cases empty
      · rcases tracks.ok isGood inner with ⟨goodAfter, same⟩
        have within := Nat.le_trans (reader.length_le inner) (Nat.min_le_right _ _)
        rw [Source.outlook_of_read_data same]
        rcases ih goodAfter with ⟨goodFinal, ⟨enough, data, fault, rest⟩ |
          ⟨short, data, fault, rest⟩ | stopped⟩
        · refine ⟨goodFinal, Or.inl ⟨?_, ?_, fault, ?_⟩⟩
          · rw [Source.Outlook.prepend_data, List.length_append]
            omega
          · rw [Source.Outlook.take_prepend within, ← left, ← data]
          · rw [rest, left, Source.Outlook.drop_prepend within]
        · refine ⟨goodFinal, Or.inr (Or.inl ⟨?_, ?_, fault, rest⟩)⟩
          · rw [Source.Outlook.prepend_data, List.length_append]
            omega
          · rw [Source.Outlook.prepend_data, ← data]
        · exact ⟨goodFinal, Or.inr (Or.inr stopped)⟩
  | case3 growth pair fault after step interrupted ih =>
      rcases limited_read_error step with ⟨owed, inner, left⟩
      rcases tracks.error isGood inner with ⟨goodAfter, same | ⟨_, same⟩ | ⟨quiet, _⟩⟩
      · rw [Source.outlook_of_read_error same, if_pos interrupted, ← left]
        exact ih goodAfter
      · rw [← same, ← left]
        exact ih goodAfter
      · exact absurd interrupted quiet
  | case4 growth pair fault after step quiet =>
      rcases limited_read_error step with ⟨owed, inner, _⟩
      rcases tracks.error isGood inner with ⟨goodAfter, same | ⟨interrupted, _⟩ | ⟨_, isRefused⟩⟩
      · refine ⟨goodAfter, Or.inr (Or.inl ?_)⟩
        rw [Source.outlook_of_read_error same, if_neg quiet]
        exact ⟨owed, rfl, rfl, rfl⟩
      · exact absurd interrupted quiet
      · exact ⟨goodAfter, Or.inr (Or.inr ⟨fault, rfl, isRefused⟩)⟩

end Tracks

end Reader

end Switchboard
