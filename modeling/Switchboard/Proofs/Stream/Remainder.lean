import Switchboard.Proofs.Stream.Outlook

/-!
# What readers leave of a script

The outlook of a script does not say how the data are cut into chunks and where they are
interrupted. What a reader leaves behind does show it: the rest of the chunk in which it stopped,
and everything after that. Here it is said exactly which steps are left once a number of bytes have
been read (`beyond`). Reading some bytes and then some more leaves what reading all of them at once
leaves (`beyond_beyond`), so how the reading is divided makes no difference either.

Interruptions may be taken out of a script. That changes neither what it holds nor what is left of
it, apart from the interruptions that are left.
-/

namespace Switchboard

namespace Source

/-! ## The steps behind some bytes -/

/-- The steps that are left once exactly so many bytes have been read. -/
def beyond : Nat → Source → Source
  | 0, source => source
  | _ + 1, [] => []
  | count + 1, .ended :: later => beyond (count + 1) later
  | count + 1, .fault _ :: later => beyond (count + 1) later
  | count + 1, .data _ rest :: later =>
      if count < rest.length then ofBytes (rest.drop count) ++ later
      else beyond (count - rest.length) later

@[simp]
theorem beyond_zero (source : Source) : source.beyond 0 = source := by
  cases source <;> rfl

theorem beyond_ofBytes_append (count : Nat) (data : Bytes) (later : Source) :
    beyond count (ofBytes data ++ later) =
      if count < data.length then ofBytes (data.drop count) ++ later
      else later.beyond (count - data.length) := by
  rcases data with _ | ⟨first, rest⟩
  · rfl
  · rcases count with _ | count
    · rw [beyond_zero, if_pos (by simp)]
      rfl
    · simp [ofBytes, beyond]

theorem split_of_read_data {asked : Nat} {source rest : Source} {first : UInt8} {more : Bytes}
    (done : read asked source = .ok (first :: more) rest) :
    ∃ data later, source = ofBytes data ++ later ∧ first :: more = data.take asked ∧
      rest = ofBytes (data.drop asked) ++ later := by
  match source, asked with
  | [], _ => cases done
  | .ended :: _, _ => cases done
  | .fault _ :: _, _ => cases done
  | .data _ _ :: _, 0 => cases done
  | .data first' rest' :: later, asked + 1 =>
      simp only [read, EStateM.Result.ok.injEq] at done
      rcases done with ⟨taken, left⟩
      exact ⟨first' :: rest', later, rfl, taken.symm, left.symm⟩

/-- What is read is taken off the bytes that are still to be read. -/
theorem beyond_of_read_data {asked count : Nat} {source rest : Source} {first : UInt8}
    {more : Bytes} (done : read asked source = .ok (first :: more) rest)
    (within : (first :: more).length ≤ count) :
    source.beyond count = rest.beyond (count - (first :: more).length) := by
  rcases split_of_read_data done with ⟨data, later, rfl, taken, rfl⟩
  rw [taken, List.length_take] at within
  rw [taken, List.length_take, beyond_ofBytes_append, beyond_ofBytes_append, List.length_drop]
  by_cases inside : count < data.length
  · have short : asked ≤ data.length := by omega
    rw [Nat.min_eq_left short] at within ⊢
    rw [if_pos inside, if_pos (by omega), List.drop_drop]
    congr 3
    omega
  · rw [if_neg inside, if_neg (by omega)]
    congr 1
    omega

theorem beyond_of_interrupted {asked count : Nat} {source rest : Source} {fault : Fault}
    (positive : 0 < count) (failed : read asked source = .error fault rest) :
    source.beyond count = rest.beyond count := by
  rcases count with _ | count
  · omega
  · match source, asked with
    | [], _ => cases failed
    | .ended :: _, _ => cases failed
    | .fault _ :: _, _ =>
        cases failed
        rfl
    | .data _ _ :: _, 0 => cases failed
    | .data _ _ :: _, _ + 1 => cases failed

/-- How the reading of some bytes is divided makes no difference to what is left. -/
theorem beyond_beyond (early late : Nat) (source : Source) :
    (source.beyond early).beyond late = source.beyond (early + late) := by
  -- Only a chunk that the first reading cuts and the second one reaches into needs a thought.
  induction source generalizing early with
  | nil => cases early <;> cases late <;> rfl
  | cons step later ih =>
      rcases early with _ | early
      · rw [beyond_zero, Nat.zero_add]
      · rw [Nat.add_right_comm]
        cases step with
        | ended => simpa [beyond, Nat.add_right_comm] using ih (early + 1)
        | fault fault => simpa [beyond, Nat.add_right_comm] using ih (early + 1)
        | data first rest =>
            simp only [beyond]
            by_cases cut : early < rest.length
            · rw [if_pos cut, beyond_ofBytes_append, List.length_drop, List.drop_drop]
              by_cases again : early + late < rest.length
              · rw [if_pos again, if_pos (by omega)]
              · rw [if_neg again, if_neg (by omega)]
                congr 1
                omega
            · rw [if_neg cut, if_neg (by omega), ih]
              congr 1
              omega

/-! ## Scripts without interruptions -/

def Step.isInterruption : Step → Bool
  | .fault reported => reported.isInterrupted
  | _ => false

/-- The script without its interruptions. -/
def calm (source : Source) : Source :=
  source.filter fun step => !step.isInterruption

@[simp]
theorem calm_cons_ended (later : Source) : calm (.ended :: later) = .ended :: calm later := rfl

@[simp]
theorem calm_cons_data (first : UInt8) (rest : Bytes) (later : Source) :
    calm (.data first rest :: later) = .data first rest :: calm later := rfl

theorem calm_cons_interruption {fault : Fault} (passing : fault.isInterrupted = true)
    (later : Source) : calm (.fault fault :: later) = calm later := by
  simp [calm, Step.isInterruption, passing]

theorem calm_cons_fault {fault : Fault} (stopping : ¬fault.isInterrupted = true)
    (later : Source) : calm (.fault fault :: later) = .fault fault :: calm later := by
  simp [calm, Step.isInterruption, stopping]

@[simp]
theorem calm_ofBytes_append (data : Bytes) (later : Source) :
    calm (ofBytes data ++ later) = ofBytes data ++ later.calm := by
  cases data <;> rfl

/-- Interruptions do not matter for what a script holds. -/
theorem outlook_calm (source : Source) :
    source.calm.outlook = { source.outlook with later := source.outlook.later.calm } := by
  induction source with
  | nil => rfl
  | cons step later ih =>
      cases step with
      | ended => rw [calm_cons_ended, outlook, outlook]
      | data first rest =>
          rw [calm_cons_data, outlook, outlook, ih]
          rfl
      | fault fault =>
          by_cases passing : fault.isInterrupted = true
          · rw [calm_cons_interruption passing, outlook, if_pos passing, ih]
          · rw [calm_cons_fault passing, outlook, outlook, if_neg passing, if_neg passing]

theorem beyond_calm (count : Nat) (source : Source) :
    source.calm.beyond count = (source.beyond count).calm := by
  induction source generalizing count with
  | nil => cases count <;> rfl
  | cons step later ih =>
      rcases count with _ | count
      · rw [beyond_zero, beyond_zero]
      · cases step with
        | ended => rw [calm_cons_ended, beyond, beyond, ih]
        | data first rest =>
            rw [calm_cons_data, beyond, beyond]
            by_cases cut : count < rest.length
            · rw [if_pos cut, if_pos cut, calm_ofBytes_append]
            · rw [if_neg cut, if_neg cut, ih]
        | fault fault =>
            by_cases passing : fault.isInterrupted = true
            · rw [calm_cons_interruption passing, beyond, ih]
            · rw [calm_cons_fault passing, beyond, beyond, ih]

theorem outlook_eq_of_calm_eq {left right : Source} (same : left.calm = right.calm) :
    left.outlook.data = right.outlook.data ∧ left.outlook.stop = right.outlook.stop ∧
      left.outlook.later.calm = right.outlook.later.calm := by
  have outlooks := congrArg outlook same
  rw [outlook_calm, outlook_calm, Outlook.mk.injEq] at outlooks
  exact outlooks

end Source

namespace Reader

variable {σ : Type}

namespace Tracks

variable {reader : Reader σ} {script : σ → Source} {good : σ → Prop} {refused : Fault → Prop}

/-- Exact reading leaves the steps behind what it has read. -/
theorem script_of_readExact (tracks : reader.Tracks script good refused) {count : Nat}
    {state final : σ} (isGood : good state) {data : Bytes}
    (done : reader.readExact count state = .ok data final) :
    script final = (script state).beyond count := by
  fun_induction Reader.readExact reader count state generalizing data with
  | case1 state =>
      cases done
      exact (Source.beyond_zero _).symm
  | case2 => cases done
  | case3 count state positive first more after step rest final' inner ih =>
      cases done
      rcases tracks.ok isGood step with ⟨goodAfter, same⟩
      rw [ih goodAfter inner, Source.beyond_of_read_data same (reader.length_le step)]
  | case4 => cases done
  | case5 count state positive fault after step interrupted ih =>
      rcases tracks.error isGood step with ⟨goodAfter, same | ⟨_, same⟩ | ⟨quiet, _⟩⟩
      · rw [ih goodAfter done, Source.beyond_of_interrupted (Nat.pos_of_ne_zero positive) same]
      · rw [ih goodAfter done, same]
      · exact absurd interrupted quiet
  | case6 => cases done

/-- Reading that is to end after a number of bytes, and brings all of them, leaves the steps behind
them. -/
theorem script_of_drain_limited (tracks : reader.Tracks script good refused) (growth : Growth)
    (pair : σ × Nat) (isGood : good pair.1)
    (quiet : (reader.limited.drain growth pair).fault = none)
    (whole : (reader.limited.drain growth pair).data.length = pair.2) :
    script (reader.limited.drain growth pair).state.1 = (script pair.1).beyond pair.2 := by
  fun_induction Reader.drain reader.limited growth pair with
  | case1 growth pair after step =>
      have spent : pair.2 = 0 := whole.symm
      rcases limited_read_ok step with ⟨_, _, rfl⟩ | ⟨owed, _, _⟩
      · rw [spent, Source.beyond_zero]
      · omega
  | case2 growth pair first more after step later ih =>
      rcases limited_read_ok step with ⟨_, empty, _⟩ | ⟨owed, inner, left⟩
      · cases empty
      · rcases tracks.ok isGood inner with ⟨goodAfter, same⟩
        have within := Nat.le_trans (reader.length_le inner) (Nat.min_le_right _ _)
        have rest : later.data.length = after.2 := by
          rw [List.length_append] at whole
          omega
        rw [ih goodAfter quiet rest, left, Source.beyond_of_read_data same within]
  | case3 growth pair fault after step interrupted ih =>
      rcases limited_read_error step with ⟨owed, inner, left⟩
      rw [← left] at whole
      rcases tracks.error isGood inner with ⟨goodAfter, same | ⟨_, same⟩ | ⟨stopping, _⟩⟩
      · rw [ih goodAfter quiet whole, left, Source.beyond_of_interrupted owed same]
      · rw [ih goodAfter quiet whole, left, same]
      · exact absurd interrupted stopping
  | case4 => cases quiet

end Tracks

/-- A reader that has nothing left to read is not asked. -/
theorem drain_limited_spent (reader : Reader σ) (growth : Growth) (state : σ) :
    reader.limited.drain growth (state, 0) = ⟨[], none, (state, 0)⟩ := by
  have spent : reader.limited.read growth.offer (state, 0) = .ok [] (state, 0) := rfl
  rw [Reader.drain]
  split
  · next step =>
    rw [spent] at step
    cases step
    rfl
  · next step =>
    rw [spent] at step
    cases step
  · next step =>
    rw [spent] at step
    cases step

end Reader

namespace Source

theorem reader_tracks : reader.Tracks (fun source => source) (fun _ => True) (fun _ => False) where
  ok _ done := ⟨trivial, done⟩
  error _ failed := ⟨trivial, Or.inl failed⟩

theorem drain_reader (growth : Growth) (source : Source) :
    reader.drain growth source =
      ⟨source.outlook.data, source.outlook.stop, source.outlook.later⟩ := by
  fun_induction Reader.drain reader growth source with
  | case1 growth source rest step => rw [outlook_of_read_nil growth.offer_pos step]
  | case2 growth source first more rest step later ih =>
      rw [outlook_of_read_data step]
      simp [later, ih, Outlook.prepend]
  | case3 growth source fault rest step interrupted ih =>
      rw [outlook_of_read_error step, if_pos interrupted]
      exact ih
  | case4 growth source fault rest step quiet => rw [outlook_of_read_error step, if_neg quiet]

/-- What is left of a script holds what is left of its data. -/
theorem outlook_beyond {count : Nat} {source : Source}
    (enough : count ≤ source.outlook.data.length) :
    (source.beyond count).outlook = source.outlook.drop count := by
  have started : (fun _ : Source => True) source := trivial
  rcases reader_tracks.readExact_cases count started with
    ⟨rest, done, _, _, left⟩ | ⟨_, _, short, _⟩ | ⟨_, _, _, never, _⟩
  · rw [← reader_tracks.script_of_readExact trivial done, left]
  · omega
  · exact absurd never not_false

theorem bytes_eq_take_beyond {count : Nat} {source : Source}
    (enough : count ≤ source.outlook.data.length) :
    source.bytes = source.outlook.data.take count ++ (source.beyond count).bytes := by
  rw [bytes_eq_outlook (source.beyond count), outlook_beyond enough, Outlook.drop,
    ← List.append_assoc, List.take_append_drop, ← bytes_eq_outlook]

end Source

end Switchboard
