import Switchboard.Bytes
import Switchboard.Fault

/-!
# Writing everything

A writer takes some of the bytes it is offered. Writing all of them offers what is left again and
again; an interrupted write is made again, a write that takes nothing is a fault, and any other
fault ends the writing. The loop ends because every write takes a byte or is paid for from the
writer's budget.
-/

namespace Switchboard

/-- A way to write to a state. -/
structure Writer (σ : Type) where
  /-- One write; it returns how many of the bytes it has taken. -/
  write : Bytes → EStateM Fault σ Nat
  /-- How many interruptions the state has in store, and perhaps more. -/
  budget : σ → Nat
  budget_of_interrupted : ∀ {offered : Bytes} {before after : σ} {fault : Fault},
    write offered before = .error fault after → fault.isInterrupted = true →
      budget after < budget before

namespace Writer

variable {σ : Type}

def writeAll (writer : Writer σ) (offered : Bytes) (state : σ) : EStateM.Result Fault σ Unit :=
  match offered with
  | [] => .ok () state
  | first :: more =>
      match _ : writer.write (first :: more) state with
      | .ok 0 after => .error .unwritten after
      | .ok (taken + 1) after => writer.writeAll (more.drop taken) after
      | .error fault after =>
          if fault.isInterrupted then writer.writeAll (first :: more) after else .error fault after
termination_by (offered.length, writer.budget state)
decreasing_by
  · apply Prod.Lex.left
    simp only [List.length_drop, List.length_cons]
    omega
  · apply Prod.Lex.right
    exact writer.budget_of_interrupted
      ‹writer.write (first :: more) state = .error fault after› (by assumption)

/-- What every single write respects, writing everything respects. -/
theorem writeAll_rel {writer : Writer σ} {rel : σ → σ → Prop} (refl : ∀ state, rel state state)
    (trans : ∀ {a b c}, rel a b → rel b c → rel a c)
    (write_ok : ∀ {offered before taken after},
      writer.write offered before = .ok taken after → rel before after)
    (write_error : ∀ {offered before fault after},
      writer.write offered before = .error fault after → rel before after)
    (offered : Bytes) (state : σ) :
    (∀ {final}, writer.writeAll offered state = .ok () final → rel state final) ∧
      (∀ {fault final}, writer.writeAll offered state = .error fault final → rel state final) := by
  fun_induction Writer.writeAll writer offered state with
  | case1 state =>
      constructor
      · intro final done
        cases done
        exact refl state
      · intro fault final failed
        cases failed
  | case2 state first more after step =>
      constructor
      · intro final done
        cases done
      · intro fault final failed
        cases failed
        exact write_ok step
  | case3 state first more taken after step ih =>
      constructor
      · intro final done
        exact trans (write_ok step) (ih.1 done)
      · intro fault final failed
        exact trans (write_ok step) (ih.2 failed)
  | case4 state first more fault after step interrupted ih =>
      constructor
      · intro final done
        exact trans (write_error step) (ih.1 done)
      · intro fault final failed
        exact trans (write_error step) (ih.2 failed)
  | case5 state first more fault after step quiet =>
      constructor
      · intro final done
        cases done
      · intro fault' final failed
        cases failed
        exact write_error step

end Writer

end Switchboard
