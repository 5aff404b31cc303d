import Switchboard.Bytes
import Switchboard.Fault

/-!
# Scripted input

What arrives at a reader is a script: chunks of data, faults and ends of stream, one after the
other. A read looks at the first step only. Data stay until they have been read to the last byte; a
fault and an end are reported once. After the last step the stream has ended for good.

A chunk always holds a byte, so a read that asks for something and gets nothing has met an end.
-/

namespace Switchboard

/-- One step of a script. -/
inductive Source.Step
  | data (first : UInt8) (rest : Bytes)
  /-- A fault, reported to one read. -/
  | fault (fault : Fault)
  /-- An end of stream, reported to one read. -/
  | ended
  deriving DecidableEq, Repr

abbrev Source := List Source.Step

namespace Source

def Step.bytes : Step → Bytes
  | .data first rest => first :: rest
  | .fault _ => []
  | .ended => []

/-- Data as a script: one chunk, or nothing at all. -/
def ofBytes : Bytes → Source
  | [] => []
  | first :: rest => [.data first rest]

/-- The data that are left in the script, over all faults and ends. -/
def bytes (source : Source) : Bytes :=
  source.flatMap Step.bytes

/-- The number of bytes that are left in the script. -/
def unread (source : Source) : Nat :=
  source.bytes.length

/-- One read of at most `asked` bytes. -/
def read (asked : Nat) : EStateM Fault Source Bytes
  | [] => .ok [] []
  | .ended :: later => .ok [] later
  | .fault fault :: later => .error fault later
  | .data first rest :: later =>
      match asked with
      | 0 => .ok [] (.data first rest :: later)
      | asked + 1 => .ok (first :: rest.take asked) (ofBytes (rest.drop asked) ++ later)

/-- What a script still has to give: its bytes, and one for each step. -/
def budget (source : Source) : Nat :=
  source.unread + source.length

@[simp]
theorem unread_nil : unread [] = 0 := rfl

@[simp]
theorem unread_cons (step : Step) (later : Source) :
    unread (step :: later) = step.bytes.length + unread later := by
  simp [unread, bytes]

@[simp]
theorem unread_append (earlier later : Source) :
    unread (earlier ++ later) = unread earlier + unread later := by
  simp [unread, bytes]

@[simp]
theorem unread_ofBytes (data : Bytes) : unread (ofBytes data) = data.length := by
  cases data <;> simp [ofBytes, Step.bytes]

theorem length_ofBytes_le (data : Bytes) : (ofBytes data).length ≤ 1 := by
  cases data <;> simp [ofBytes]

/-- A read takes what it returns out of the script. -/
theorem budget_of_read_ok {asked : Nat} {source rest : Source} {data : Bytes}
    (done : read asked source = .ok data rest) : rest.budget + data.length ≤ source.budget := by
  match source, asked with
  | [], _ => simp_all [read]
  | .ended :: later, _ =>
      simp only [read, EStateM.Result.ok.injEq] at done
      obtain ⟨rfl, rfl⟩ := done
      simp [budget, Step.bytes]
  | .fault _ :: _, _ => simp [read] at done
  | .data first bytes :: later, 0 =>
      simp only [read, EStateM.Result.ok.injEq] at done
      obtain ⟨rfl, rfl⟩ := done
      simp
  | .data first bytes :: later, asked + 1 =>
      simp only [read, EStateM.Result.ok.injEq] at done
      obtain ⟨rfl, rfl⟩ := done
      have chunk := length_ofBytes_le (bytes.drop asked)
      simp [budget, Step.bytes]
      omega

/-- A fault takes its step out of the script. -/
theorem budget_of_read_error {asked : Nat} {source rest : Source} {fault : Fault}
    (failed : read asked source = .error fault rest) : rest.budget < source.budget := by
  match source, asked with
  | [], _ => simp [read] at failed
  | .ended :: _, _ => simp [read] at failed
  | .fault _ :: later, _ =>
      simp only [read, EStateM.Result.error.injEq] at failed
      obtain ⟨rfl, rfl⟩ := failed
      simp [budget, Step.bytes]
  | .data _ _ :: _, 0 => simp [read] at failed
  | .data _ _ :: _, _ + 1 => simp [read] at failed

/-- A read never returns more than it was asked for. -/
theorem length_le_of_read_ok {asked : Nat} {source rest : Source} {data : Bytes}
    (done : read asked source = .ok data rest) : data.length ≤ asked := by
  match source, asked with
  | [], _ => simp_all [read]
  | .ended :: _, _ => simp_all [read]
  | .fault _ :: _, _ => simp [read] at done
  | .data _ _ :: _, 0 => simp_all [read]
  | .data _ bytes :: _, asked + 1 =>
      simp only [read, EStateM.Result.ok.injEq] at done
      obtain ⟨rfl, _⟩ := done
      simp only [List.length_cons, List.length_take]
      omega

end Source

end Switchboard
