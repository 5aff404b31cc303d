/-!
# Bytes on the wire

A message is a run of bytes. This file holds what the fixed layout of a header needs of them:
numbers written least significant byte first, and text regions of a fixed width that are filled up
with zero bytes on the way out and stripped of them on the way in.

The statements say that each of these shapes has the width it should have, that a number reads back
modulo the width, and that a padded region gives back its content up to the zero bytes at the
content's own end.
-/

namespace Switchboard

/-- A run of bytes, in the order in which they travel. -/
abbrev Bytes := List UInt8

namespace Bytes

/-- The `width` low bytes of a number, least significant first. -/
def littleEndian : Nat → Nat → Bytes
  | 0, _ => []
  | width + 1, number => UInt8.ofNat number :: littleEndian width (number / 256)

/-- The number whose bytes are given least significant first. -/
def ofLittleEndian : Bytes → Nat
  | [] => 0
  | byte :: rest => byte.toNat + 256 * ofLittleEndian rest

/-- How many numbers a width has room for. -/
def capacity : Nat → Nat
  | 0 => 1
  | width + 1 => 256 * capacity width

@[simp]
theorem length_littleEndian (width number : Nat) : (littleEndian width number).length = width := by
  induction width generalizing number with
  | zero => rfl
  | succ width ih => simp [littleEndian, ih]

/-- Reading back a number keeps what fits into the width. -/
theorem ofLittleEndian_littleEndian (width number : Nat) :
    ofLittleEndian (littleEndian width number) = number % capacity width := by
  induction width generalizing number with
  | zero => simp [littleEndian, ofLittleEndian, capacity, Nat.mod_one]
  | succ width ih =>
      have low : (UInt8.ofNat number).toNat = number % 256 := UInt8.toNat_ofNat'
      rw [littleEndian, ofLittleEndian, ih, low, capacity, Nat.mod_mul]

/-- Writing a number that was read gives the same bytes. -/
theorem littleEndian_ofLittleEndian (bytes : Bytes) :
    littleEndian bytes.length (ofLittleEndian bytes) = bytes := by
  induction bytes with
  | nil => rfl
  | cons byte rest ih =>
      have small : byte.toNat < 256 := byte.toNat_lt
      have quotient : (byte.toNat + 256 * ofLittleEndian rest) / 256 =
          ofLittleEndian rest := by omega
      have low : UInt8.ofNat (byte.toNat + 256 * ofLittleEndian rest) = byte := by
        apply UInt8.toNat.inj
        rw [UInt8.toNat_ofNat']
        omega
      simp only [List.length_cons, littleEndian, ofLittleEndian, quotient, low, ih]

/-- A number that was read from bytes fits into their width. -/
theorem ofLittleEndian_lt (bytes : Bytes) : ofLittleEndian bytes < capacity bytes.length := by
  induction bytes with
  | nil => exact Nat.one_pos
  | cons byte rest ih =>
      have small : byte.toNat < 256 := byte.toNat_lt
      simp only [ofLittleEndian, List.length_cons, capacity]
      omega

/-- A region of exactly `width` bytes: the content cut to the width, or followed by zero bytes. -/
def padded (width : Nat) (content : Bytes) : Bytes :=
  content.take width ++ List.replicate (width - content.length) 0

/-- The content of a region: everything up to its last byte that is not zero. -/
def trimmed : Bytes → Bytes
  | [] => []
  | byte :: rest =>
      match trimmed rest with
      | [] => if byte = 0 then [] else [byte]
      | next :: more => byte :: next :: more

@[simp]
theorem length_padded (width : Nat) (content : Bytes) : (padded width content).length = width := by
  simp [padded]
  omega

@[simp]
theorem trimmed_replicate_zero (count : Nat) : trimmed (List.replicate count 0) = [] := by
  induction count with
  | zero => rfl
  | succ count ih => simp [List.replicate_succ, trimmed, ih]

/-- Zero bytes at the end of a region carry nothing. -/
theorem trimmed_append_replicate_zero (content : Bytes) (count : Nat) :
    trimmed (content ++ List.replicate count 0) = trimmed content := by
  induction content with
  | nil => simp [trimmed]
  | cons byte rest ih => simp [trimmed, ih]

/-- Padding and trimming keep the content that fits, without the zero bytes at its end. -/
theorem trimmed_padded (width : Nat) (content : Bytes) :
    trimmed (padded width content) = trimmed (content.take width) :=
  trimmed_append_replicate_zero _ _

/-- A region is its content followed by the zero bytes that trimming took away. -/
theorem trimmed_append_zeros (region : Bytes) :
    trimmed region ++ List.replicate (region.length - (trimmed region).length) 0 = region := by
  induction region with
  | nil => rfl
  | cons byte rest ih =>
      cases content : trimmed rest with
      | nil =>
          rw [content] at ih
          simp only [List.nil_append, List.length_nil, Nat.sub_zero] at ih
          by_cases zero : byte = 0
          · simp [trimmed, content, zero, List.replicate_succ, ih]
          · simp [trimmed, content, zero, ih]
      | cons next more =>
          rw [content] at ih
          simpa [trimmed, content] using ih

/-- Trimming never lengthens a region. -/
theorem length_trimmed_le (region : Bytes) : (trimmed region).length ≤ region.length := by
  induction region with
  | nil => simp [trimmed]
  | cons byte rest ih =>
      cases content : trimmed rest with
      | nil => by_cases zero : byte = 0 <;> simp [trimmed, content, zero]
      | cons next more =>
          rw [content] at ih
          simpa [trimmed, content] using ih

/-- A trimmed region, padded again to its own width, is the region. -/
theorem padded_trimmed (region : Bytes) : padded region.length (trimmed region) = region := by
  have fits := length_trimmed_le region
  rw [padded, List.take_of_length_le fits]
  exact trimmed_append_zeros region

end Bytes

end Switchboard
