import Switchboard.Stream.Source

/-!
# Deliveries

The same bytes can arrive in many ways: in one chunk or byte by byte, with any number of
interruptions in between. A script that does nothing else delivers its bytes, and then the stream
has ended.
-/

namespace Switchboard.Source

/-- A script brings these bytes, perhaps with interruptions, and then ends. -/
inductive Delivers : Bytes → Source → Prop
  | done : Delivers [] []
  | chunk {bytes : Bytes} {later : Source} (first : UInt8) (rest : Bytes)
      (remaining : Delivers bytes later) :
      Delivers (first :: rest ++ bytes) (.data first rest :: later)
  | interruption {bytes : Bytes} {later : Source} {fault : Fault}
      (passing : fault.isInterrupted = true) (remaining : Delivers bytes later) :
      Delivers bytes (.fault fault :: later)

/-- Bytes in one chunk are delivered. -/
theorem delivers_ofBytes (bytes : Bytes) : Delivers bytes (ofBytes bytes) := by
  cases bytes with
  | nil => exact .done
  | cons first rest => simpa [ofBytes] using Delivers.chunk first rest .done

end Switchboard.Source
