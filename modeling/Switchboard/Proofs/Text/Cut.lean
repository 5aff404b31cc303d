import Switchboard.Text.Utf8

/-!
# Texts that are cut

Reading what was written gives the text back. A text may also be cut after any number of bytes,
which need not be the end of a character. Then the characters before the cut are read as they were,
and what is left of the one that was cut is read as a single replacement.

A character is written as a leading byte, which tells how many more are owed, and bytes that each
carry six bits. `step_lead` lemmas and `step_owed` lemmas say what reading makes of the two; the
rest is put together from them.
-/

namespace Switchboard.Utf8

/-- The byte that leads a character of two bytes. -/
theorem step_leadTwo {code : Nat} (lower : 0x80 ≤ code) (upper : code < 0x800) :
    step .between (UInt8.ofNat (0xC0 + code / 64)) = ([], .within (code / 64) 0 0x80 0xBF) := by
  have byte : (UInt8.ofNat (0xC0 + code / 64)).toNat = 0xC0 + code / 64 := by
    rw [UInt8.toNat_ofNat']
    omega
  simp only [step, start, byte]
  rw [if_neg (by omega), if_neg (by omega), if_pos (by omega), Nat.add_sub_cancel_left]

/-- The byte that leads a character of three bytes. The range of the next byte leaves out what two
bytes can say and the codes that are no characters. -/
theorem step_leadThree {code : Nat} (upper : code < 0x10000) :
    step .between (UInt8.ofNat (0xE0 + code / 4096)) =
      ([], .within (code / 4096) 1 (if 0xE0 + code / 4096 = 0xE0 then 0xA0 else 0x80)
        (if 0xE0 + code / 4096 = 0xED then 0x9F else 0xBF)) := by
  have byte : (UInt8.ofNat (0xE0 + code / 4096)).toNat = 0xE0 + code / 4096 := by
    rw [UInt8.toNat_ofNat']
    omega
  simp only [step, start, byte]
  rw [if_neg (by omega), if_neg (by omega), if_neg (by omega), if_pos (by omega),
    Nat.add_sub_cancel_left]

/-- The byte that leads a character of four bytes. -/
theorem step_leadFour {code : Nat} (upper : code < 0x110000) :
    step .between (UInt8.ofNat (0xF0 + code / 262144)) =
      ([], .within (code / 262144) 2 (if 0xF0 + code / 262144 = 0xF0 then 0x90 else 0x80)
        (if 0xF0 + code / 262144 = 0xF4 then 0x8F else 0xBF)) := by
  have byte : (UInt8.ofNat (0xF0 + code / 262144)).toNat = 0xF0 + code / 262144 := by
    rw [UInt8.toNat_ofNat']
    omega
  simp only [step, start, byte]
  rw [if_neg (by omega), if_neg (by omega), if_neg (by omega), if_neg (by omega),
    if_pos (by omega), Nat.add_sub_cancel_left]

/-- A byte that carries six bits and is not the last one. -/
theorem step_owed {bits owed low high six : Nat} (small : six < 64) (fits : low ≤ 0x80 + six)
    (below : 0x80 + six ≤ high) :
    step (.within bits (owed + 1) low high) (UInt8.ofNat (0x80 + six)) =
      ([], .within (bits * 64 + six) owed 0x80 0xBF) := by
  have byte : (UInt8.ofNat (0x80 + six)).toNat = 0x80 + six := by
    rw [UInt8.toNat_ofNat']
    omega
  simp only [step, byte]
  rw [if_pos ⟨fits, below⟩, Nat.add_sub_cancel_left]

/-- The last byte of a character. -/
theorem step_last {bits low high six : Nat} (small : six < 64) (fits : low ≤ 0x80 + six)
    (below : 0x80 + six ≤ high) :
    step (.within bits 0 low high) (UInt8.ofNat (0x80 + six)) =
      ([Char.ofNat (bits * 64 + six)], .between) := by
  have byte : (UInt8.ofNat (0x80 + six)).toNat = 0x80 + six := by
    rw [UInt8.toNat_ofNat']
    omega
  simp only [step, byte]
  rw [if_pos ⟨fits, below⟩, Nat.add_sub_cancel_left]

/-- A code below 0x80 is its own byte. -/
theorem step_ascii {code : Nat} (upper : code < 0x80) :
    step .between (UInt8.ofNat code) = ([Char.ofNat code], .between) := by
  have byte : (UInt8.ofNat code).toNat = code := by
    rw [UInt8.toNat_ofNat']
    omega
  simp only [step, start, byte]
  rw [if_pos upper]

/-- From some point of the reading, these bytes settle this character with the last one and nothing
before. -/
inductive Spells (character : Char) : Progress → Bytes → Prop
  | last {progress : Progress} {byte : UInt8}
      (settled : step progress byte = ([character], .between)) : Spells character progress [byte]
  | more {progress : Progress} {byte : UInt8} {bits owed low high : Nat} {rest : Bytes}
      (begun : step progress byte = ([], .within bits owed low high))
      (later : Spells character (.within bits owed low high) rest) :
      Spells character progress (byte :: rest)

theorem Spells.decodeFrom_append {character : Char} {progress : Progress} {bytes : Bytes}
    (spells : Spells character progress bytes) (rest : Bytes) :
    decodeFrom progress (bytes ++ rest) = character :: decodeFrom .between rest := by
  induction spells with
  | last settled => simp [settled]
  | more begun later ih => simpa [begun] using ih

/-- Before its last byte a character is only a beginning. -/
theorem Spells.decodeFrom_take {character : Char} {progress : Progress} {bytes : Bytes}
    (spells : Spells character progress bytes) {count : Nat} (positive : 0 < count)
    (short : count < bytes.length) : decodeFrom progress (bytes.take count) = [replacement] := by
  induction spells generalizing count with
  | last settled =>
      simp only [List.length_singleton] at short
      omega
  | more begun later ih =>
      rcases count with _ | count
      · omega
      · rw [List.take_succ_cons, decodeFrom_cons, begun]
        rcases count with _ | count
        · simp [finish]
        · simpa using ih (by omega) (by simpa using short)

/-- What is written for a character settles it. -/
theorem spells_encodeChar (character : Char) :
    Spells character .between (encodeChar character) := by
  have valid : character.toNat < 0xD800 ∨ 0xDFFF < character.toNat ∧ character.toNat < 0x110000 :=
    character.valid
  have same := Char.ofNat_toNat character
  simp only [encodeChar]
  generalize character.toNat = code at valid same ⊢
  subst same
  split
  · next ascii => exact .last (step_ascii ascii)
  · next notAscii =>
    split
    · next two =>
      have joined : code / 64 * 64 + code % 64 = code := by omega
      refine .more (step_leadTwo (by omega) two) (.last ?_)
      rw [step_last (by omega) (by omega) (by omega), joined]
    · next notTwo =>
      split
      · next three =>
        have joined : (code / 4096 * 64 + code / 64 % 64) * 64 + code % 64 = code := by omega
        have middle := @step_owed (code / 4096) 0
          (if 0xE0 + code / 4096 = 0xE0 then 0xA0 else 0x80)
          (if 0xE0 + code / 4096 = 0xED then 0x9F else 0xBF) (code / 64 % 64)
          (by omega) (by split <;> omega) (by split <;> omega)
        refine .more (step_leadThree three) (.more middle (.last ?_))
        rw [step_last (by omega) (by omega) (by omega), joined]
      · next notThree =>
        have joined : ((code / 262144 * 64 + code / 4096 % 64) * 64 + code / 64 % 64) * 64 +
            code % 64 = code := by omega
        have second := @step_owed (code / 262144) 1
          (if 0xF0 + code / 262144 = 0xF0 then 0x90 else 0x80)
          (if 0xF0 + code / 262144 = 0xF4 then 0x8F else 0xBF) (code / 4096 % 64)
          (by omega) (by split <;> omega) (by split <;> omega)
        have third := @step_owed (code / 262144 * 64 + code / 4096 % 64) 0 0x80 0xBF
          (code / 64 % 64) (by omega) (by omega) (by omega)
        refine .more (step_leadFour (by omega)) (.more second (.more third (.last ?_)))
        rw [step_last (by omega) (by omega) (by omega), joined]

theorem length_encodeChar_le (character : Char) : (encodeChar character).length ≤ 4 := by
  simp only [encodeChar]
  split
  · simp
  · split
    · simp
    · split <;> simp

/-- Only the character with code zero is written with a zero byte. -/
theorem ne_zero_of_mem_encodeChar {character : Char} (notNull : character ≠ '\x00') {byte : UInt8}
    (mem : byte ∈ encodeChar character) : byte ≠ 0 := by
  have valid : character.toNat < 0xD800 ∨ 0xDFFF < character.toNat ∧ character.toNat < 0x110000 :=
    character.valid
  have positive : character.toNat ≠ 0 := by
    intro zero
    apply notNull
    rw [← Char.ofNat_toNat character, zero]
  have nonzero {code : Nat} (lower : 0 < code) (upper : code < 256) : UInt8.ofNat code ≠ 0 := by
    intro zero
    have byte := congrArg UInt8.toNat zero
    rw [UInt8.toNat_ofNat', UInt8.toNat_zero] at byte
    omega
  simp only [encodeChar] at mem
  split at mem
  · simp only [List.mem_singleton] at mem
    rw [mem]
    exact nonzero (by omega) (by omega)
  · split at mem
    · simp only [List.mem_cons, List.not_mem_nil, or_false] at mem
      rcases mem with rfl | rfl <;> exact nonzero (by omega) (by omega)
    · split at mem
      · simp only [List.mem_cons, List.not_mem_nil, or_false] at mem
        rcases mem with rfl | rfl | rfl <;> exact nonzero (by omega) (by omega)
      · simp only [List.mem_cons, List.not_mem_nil, or_false] at mem
        rcases mem with rfl | rfl | rfl | rfl <;> exact nonzero (by omega) (by omega)

/-- What was written is read again, whatever follows. -/
theorem decodeFrom_flatMap_encodeChar_append (characters : List Char) (rest : Bytes) :
    decodeFrom .between (characters.flatMap encodeChar ++ rest) =
      characters ++ decodeFrom .between rest := by
  induction characters with
  | nil => rfl
  | cons character characters ih =>
      rw [List.flatMap_cons, List.append_assoc, (spells_encodeChar character).decodeFrom_append, ih,
        List.cons_append]

/-- A text that was written is read as it was. -/
@[simp]
theorem decode_encode (text : String) : decode (encode text) = text := by
  have whole := decodeFrom_flatMap_encodeChar_append text.toList []
  simp only [List.append_nil, decodeFrom_nil, finish] at whole
  rw [decode, encode, whole, String.ofList_toList]

/-- A cut leaves whole characters and perhaps the beginning of the next one. -/
theorem take_flatMap_encodeChar (characters : List Char) (count : Nat) :
    ∃ kept later : List Char, characters = kept ++ later ∧
      ((characters.flatMap encodeChar).take count = kept.flatMap encodeChar ∨
        ∃ cut rest taken, later = cut :: rest ∧ 0 < taken ∧ taken < (encodeChar cut).length ∧
          (kept.flatMap encodeChar).length + taken = count ∧
          (characters.flatMap encodeChar).take count =
            kept.flatMap encodeChar ++ (encodeChar cut).take taken) := by
  induction characters generalizing count with
  | nil => exact ⟨[], [], rfl, Or.inl (by simp)⟩
  | cons character characters ih =>
      rw [List.flatMap_cons, List.take_append]
      by_cases within : count < (encodeChar character).length
      · rw [Nat.sub_eq_zero_of_le (Nat.le_of_lt within), List.take_zero, List.append_nil]
        refine ⟨[], character :: characters, rfl, ?_⟩
        rcases Nat.eq_zero_or_pos count with rfl | positive
        · exact Or.inl (by simp)
        · exact Or.inr ⟨character, characters, count, rfl, positive, within, by simp, by simp⟩
      · rw [List.take_of_length_le (Nat.le_of_not_lt within)]
        rcases ih (count - (encodeChar character).length) with ⟨kept, later, rfl, remains⟩
        refine ⟨character :: kept, later, rfl, ?_⟩
        rcases remains with whole | ⟨cut, rest, taken, next, positive, short, length, partly⟩
        · exact Or.inl (by rw [whole, List.flatMap_cons])
        · refine Or.inr ⟨cut, rest, taken, next, positive, short, ?_, ?_⟩
          · rw [List.flatMap_cons, List.length_append]
            omega
          · rw [partly, List.flatMap_cons, List.append_assoc]

end Switchboard.Utf8
