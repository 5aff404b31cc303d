/-!
# How a buffer grows while a stream is read to its end

A reader that takes in everything does not know how much there is. It keeps a buffer with some
capacity and offers the free part of it to each read, but never more than a ceiling, which doubles
whenever a read fills an offer of that size. What a read leaves of its offer is ready for use, so
the next read is offered that and no more, as long as it is worth a read. Once there is hardly any
room left, the buffer doubles.

Before it grows a buffer for nothing, though, it probes with a few bytes of its own: at the
beginning if there is almost no room, and whenever the buffer it was given is exactly full.

Only the sizes of the offers are decided here; `offer_pos` says that every read is offered
something, and `filled_add_window_le` that what is offered of the buffer fits.
-/

namespace Switchboard

/-- A buffer that takes in a stream. -/
structure Growth where
  /-- How many bytes it holds. -/
  filled : Nat
  /-- How many bytes it has room for. -/
  capacity : Nat
  /-- How many bytes it had room for at the beginning. -/
  initial : Nat
  /-- How many bytes the last read has left of its offer. -/
  ready : Nat
  /-- The most that is offered to one read. -/
  ceiling : Nat
  /-- Nothing has been read yet. -/
  fresh : Bool
  /-- What it holds and what is ready fit in the room. -/
  filled_add_ready_le : filled + ready ≤ capacity
  /-- Something may be offered. -/
  ceiling_pos : 0 < ceiling

namespace Growth

/-- The size of a probe. Fewer bytes are not worth a read of their own. -/
def probe : Nat := 32

/-- An empty buffer with some room. -/
def withCapacity (capacity : Nat) : Growth :=
  ⟨0, capacity, capacity, 0, 8192, true, Nat.zero_le _, by decide⟩

/-- The next read is a probe. -/
def probes (growth : Growth) : Bool :=
  (growth.fresh && growth.capacity - growth.filled < probe) ||
    (growth.filled == growth.capacity && growth.capacity == growth.initial)

/-- The room after a buffer with hardly any has made more of it. -/
def room (growth : Growth) : Nat :=
  if growth.capacity - growth.filled < probe then max (2 * growth.capacity) (growth.filled + probe)
  else growth.capacity

/-- How many bytes of the buffer itself the next read may fill. -/
def window (growth : Growth) : Nat :=
  if probe ≤ growth.ready then growth.ready else min (growth.room - growth.filled) growth.ceiling

/-- How many bytes the next read may return. -/
def offer (growth : Growth) : Nat :=
  if growth.probes then probe else growth.window

/-- There is never less room than before. -/
theorem capacity_le_room (growth : Growth) : growth.capacity ≤ growth.room := by
  unfold room
  split
  · omega
  · exact Nat.le_refl _

/-- What the buffer offers of itself fits in its room. -/
theorem filled_add_window_le (growth : Growth) : growth.filled + growth.window ≤ growth.room := by
  have held := growth.filled_add_ready_le
  have larger := growth.capacity_le_room
  unfold window
  split <;> omega

/-- The buffer after a read has returned some bytes. -/
def after (growth : Growth) (count : Nat) : Growth :=
  let filled := growth.filled + count
  if growth.probes then
    { growth with
      filled
      capacity := if filled ≤ growth.capacity then growth.capacity
        else max (2 * growth.capacity) filled
      ready := 0
      fresh := false
      filled_add_ready_le := by split <;> omega }
  else
    { growth with
      filled
      capacity := max growth.room filled
      ready := growth.window - count
      ceiling := if growth.ceiling ≤ growth.window ∧ count = growth.window then 2 * growth.ceiling
        else growth.ceiling
      fresh := false
      filled_add_ready_le := by
        have fits := growth.filled_add_window_le
        omega
      ceiling_pos := by
        have positive := growth.ceiling_pos
        split <;> omega }

/-- There is always room for a probe. -/
theorem filled_add_probe_le_room (growth : Growth) : growth.filled + probe ≤ growth.room := by
  have held := growth.filled_add_ready_le
  unfold room
  split <;> omega

/-- Every read is offered something. -/
theorem offer_pos (growth : Growth) : 0 < growth.offer := by
  have spare := growth.filled_add_probe_le_room
  have positive := growth.ceiling_pos
  have probing : 0 < probe := by decide
  unfold offer window
  split
  · exact probing
  · split <;> omega

end Growth

end Switchboard
