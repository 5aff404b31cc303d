import Switchboard.Stream.Growth
import Switchboard.Stream.Source

/-!
# Reading until there is enough

A reader answers single reads. Three things are built from them here: reading an exact number of
bytes, reading to the end of the stream, and a reader that stops after a number of bytes. An
interrupted read is made again; any other fault ends the reading, and the bytes that came before it
are gone from the stream.

A reader comes with a budget: bytes that are returned are paid from it, and so is an interruption.
That is why both loops end. `readExact_ok` and `drain_state` say what they leave of the budget.
-/

namespace Switchboard

/-- A way to read from a state. -/
structure Reader (σ : Type) where
  /-- One read of at most so many bytes. No bytes mean the end of the stream. -/
  read : Nat → EStateM Fault σ Bytes
  /-- What the state still has to give. -/
  budget : σ → Nat
  budget_of_ok : ∀ {asked : Nat} {before after : σ} {data : Bytes},
    read asked before = .ok data after → budget after + data.length ≤ budget before
  budget_of_error : ∀ {asked : Nat} {before after : σ} {fault : Fault},
    read asked before = .error fault after → budget after ≤ budget before
  budget_of_interrupted : ∀ {asked : Nat} {before after : σ} {fault : Fault},
    read asked before = .error fault after → fault.isInterrupted = true →
      budget after < budget before
  length_le : ∀ {asked : Nat} {before after : σ} {data : Bytes},
    read asked before = .ok data after → data.length ≤ asked

def Source.reader : Reader Source where
  read := Source.read
  budget := Source.budget
  budget_of_ok := Source.budget_of_read_ok
  budget_of_error failed := Nat.le_of_lt (Source.budget_of_read_error failed)
  budget_of_interrupted failed _ := Source.budget_of_read_error failed
  length_le := Source.length_le_of_read_ok

namespace Reader

variable {σ : Type}

/-- Reads exactly `count` bytes. A stream that ends before is a fault of its own. -/
def readExact (reader : Reader σ) (count : Nat) (state : σ) : EStateM.Result Fault σ Bytes :=
  if count = 0 then .ok [] state
  else
    match _ : reader.read count state with
    | .ok [] after => .error .unfilled after
    | .ok (first :: more) after =>
        match reader.readExact (count - (first :: more).length) after with
        | .ok rest final => .ok (first :: more ++ rest) final
        | .error fault final => .error fault final
    | .error fault after =>
        if fault.isInterrupted then reader.readExact count after else .error fault after
termination_by reader.budget state
decreasing_by
  · have paid := reader.budget_of_ok ‹reader.read count state = .ok (first :: more) after›
    simp only [List.length_cons] at paid
    omega
  · exact reader.budget_of_interrupted ‹reader.read count state = .error fault after›
      (by assumption)

/-- What reading to the end has brought. -/
structure Drained (σ : Type) where
  data : Bytes
  fault : Option Fault
  state : σ

/-- Reads until the stream ends or a fault comes up. -/
def drain (reader : Reader σ) (growth : Growth) (state : σ) : Drained σ :=
  match _ : reader.read growth.offer state with
  | .ok [] after => ⟨[], none, after⟩
  | .ok (first :: more) after =>
      let later := reader.drain (growth.after (first :: more).length) after
      ⟨first :: more ++ later.data, later.fault, later.state⟩
  | .error fault after =>
      if fault.isInterrupted then reader.drain growth after else ⟨[], some fault, after⟩
termination_by reader.budget state
decreasing_by
  · have paid := reader.budget_of_ok ‹reader.read growth.offer state = .ok (first :: more) after›
    simp only [List.length_cons] at paid
    omega
  · exact reader.budget_of_interrupted ‹reader.read growth.offer state = .error fault after›
      (by assumption)

/-- The reader that ends after a number of bytes, which stands beside the state. Once they have been
read it asks for no more. -/
def limited (reader : Reader σ) : Reader (σ × Nat) where
  read asked := fun (state, left) =>
    if left = 0 then .ok [] (state, left)
    else
      match reader.read (min asked left) state with
      | .ok data after => .ok data (after, left - data.length)
      | .error fault after => .error fault (after, left)
  budget pair := reader.budget pair.1
  budget_of_ok := by
    rintro asked ⟨state, left⟩ ⟨after, rest⟩ data done
    by_cases spent : left = 0
    · simp only [spent, if_true, EStateM.Result.ok.injEq, Prod.mk.injEq] at done
      obtain ⟨rfl, rfl, _⟩ := done
      simp
    · simp only [spent, if_false] at done
      split at done
      · next inner =>
        simp only [EStateM.Result.ok.injEq, Prod.mk.injEq] at done
        obtain ⟨rfl, rfl, rfl⟩ := done
        exact reader.budget_of_ok inner
      · cases done
  budget_of_error := by
    rintro asked ⟨state, left⟩ ⟨after, rest⟩ fault failed
    by_cases spent : left = 0
    · simp_all
    · simp only [spent, if_false] at failed
      split at failed
      · cases failed
      · next inner =>
        simp only [EStateM.Result.error.injEq, Prod.mk.injEq] at failed
        obtain ⟨rfl, rfl, rfl⟩ := failed
        exact reader.budget_of_error inner
  budget_of_interrupted := by
    rintro asked ⟨state, left⟩ ⟨after, rest⟩ fault failed interrupted
    by_cases spent : left = 0
    · simp_all
    · simp only [spent, if_false] at failed
      split at failed
      · cases failed
      · next inner =>
        simp only [EStateM.Result.error.injEq, Prod.mk.injEq] at failed
        obtain ⟨rfl, rfl, rfl⟩ := failed
        exact reader.budget_of_interrupted inner interrupted
  length_le := by
    rintro asked ⟨state, left⟩ ⟨after, rest⟩ data done
    by_cases spent : left = 0
    · simp only [spent, if_true, EStateM.Result.ok.injEq, Prod.mk.injEq] at done
      obtain ⟨rfl, _⟩ := done
      simp
    · simp only [spent, if_false] at done
      split at done
      · next inner =>
        simp only [EStateM.Result.ok.injEq, Prod.mk.injEq] at done
        obtain ⟨rfl, rfl, rfl⟩ := done
        have bound := reader.length_le inner
        omega
      · cases done

/-- Exact reading returns the number of bytes that was asked for and pays for them. -/
theorem readExact_ok {reader : Reader σ} {count : Nat} {state final : σ} {data : Bytes}
    (done : reader.readExact count state = .ok data final) :
    data.length = count ∧ reader.budget final + count ≤ reader.budget state := by
  fun_induction Reader.readExact reader count state generalizing data final with
  | case1 state =>
      cases done
      simp
  | case2 => cases done
  | case3 count state positive first more after step rest final' inner ih =>
      cases done
      obtain ⟨length, paid⟩ := ih inner
      have bound := reader.length_le step
      have spent := reader.budget_of_ok step
      simp only [List.length_append, List.length_cons] at *
      omega
  | case4 => cases done
  | case5 count state positive fault after step interrupted ih =>
      have spent := reader.budget_of_interrupted step interrupted
      obtain ⟨length, paid⟩ := ih done
      omega
  | case6 => cases done

/-- Reading to the end pays for every byte. -/
theorem drain_state (reader : Reader σ) (growth : Growth) (state : σ) :
    reader.budget (reader.drain growth state).state + (reader.drain growth state).data.length ≤
      reader.budget state := by
  fun_induction Reader.drain reader growth state with
  | case1 growth state after step => simpa using reader.budget_of_ok step
  | case2 growth state first more after step later ih =>
      have spent := reader.budget_of_ok step
      have paid : reader.budget later.state + later.data.length ≤ reader.budget after := ih
      simp only [List.length_append, List.length_cons] at spent ⊢
      omega
  | case3 growth state fault after step interrupted ih =>
      have spent := reader.budget_of_interrupted step interrupted
      omega
  | case4 growth state fault after step quiet => simpa using reader.budget_of_error step

end Reader

end Switchboard
