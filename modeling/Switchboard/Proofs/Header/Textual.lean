import Switchboard.Proofs.Header.Settled

/-!
# Headers that are read without loss

Reading a header replaces whatever is no text in its two regions. If there is nothing to replace,
nothing is lost: what was read is written as the bytes that it was read from. So headers that differ
on the wire and hold nothing but text are read as different headers (`text_is_read_without_loss`).

What counts as text is the standard library's notion of valid UTF-8. Characters are written in the
same way here and there (`encodeChar_eq`), so a valid region is what is written for some characters,
and the zero bytes that trimming takes away are null characters at their end.
-/

namespace Switchboard

namespace Utf8

/-- The standard library also takes remainders of the leading bits, which are too few to have any
other. -/
theorem encodeChar_eq (character : Char) :
    encodeChar character = String.utf8EncodeChar character := by
  have valid : character.toNat < 0xD800 ∨ 0xDFFF < character.toNat ∧ character.toNat < 0x110000 :=
    character.valid
  have code : character.val.toNat = character.toNat := rfl
  have ascii : character.toNat < 0x80 ↔ character.toNat ≤ 127 := Nat.lt_succ_iff
  have two : character.toNat < 0x800 ↔ character.toNat ≤ 2047 := Nat.lt_succ_iff
  have three : character.toNat < 0x10000 ↔ character.toNat ≤ 65535 := Nat.lt_succ_iff
  simp only [encodeChar, String.utf8EncodeChar, code, ascii, two, three]
  generalize character.toNat = code at valid
  split
  · rfl
  · split
    · next bound =>
      rw [Nat.mod_eq_of_lt (by omega : code / 64 < 32), Nat.add_comm 0xC0, Nat.add_comm 0x80]
    · split
      · next bound =>
        rw [Nat.mod_eq_of_lt (by omega : code / 4096 < 16), Nat.add_comm 0xE0,
          Nat.add_comm 0x80 (code / 64 % 64), Nat.add_comm 0x80 (code % 64)]
      · rw [Nat.mod_eq_of_lt (by omega : code / 262144 < 8), Nat.add_comm 0xF0,
          Nat.add_comm 0x80 (code / 4096 % 64), Nat.add_comm 0x80 (code / 64 % 64),
          Nat.add_comm 0x80 (code % 64)]

/-- Bytes are valid if they are what is written for some characters. -/
theorem isValidUTF8_iff {bytes : Bytes} :
    bytes.toByteArray.IsValidUTF8 ↔
      ∃ characters : List Char, bytes = characters.flatMap encodeChar := by
  have same (characters : List Char) :
      characters.utf8Encode = (characters.flatMap encodeChar).toByteArray := by
    rw [List.utf8Encode, ← funext encodeChar_eq]
  constructor
  · rintro ⟨characters, valid⟩
    rw [same] at valid
    exact ⟨characters, List.toByteArray_inj.mp valid⟩
  · rintro ⟨characters, rfl⟩
    exact ⟨characters, (same characters).symm⟩

end Utf8

namespace Header

open Utf8 (encodeChar)

/-- There is enough for a header, and the two regions for texts hold valid UTF-8, from their first
byte to the last: zero bytes stand for null characters. -/
structure Textual (wire : Bytes) : Prop where
  width : 225 ≤ wire.length
  contentType : ((wire.drop 25).take 100).toByteArray.IsValidUTF8
  endpoint : ((wire.drop 125).take 100).toByteArray.IsValidUTF8

/-- The text of a valid region fills the region with the same bytes again. -/
theorem region_regionText {bytes : Bytes} (width : bytes.length = 100)
    (valid : bytes.toByteArray.IsValidUTF8) : region (regionText bytes) = bytes := by
  rcases Utf8.isValidUTF8_iff.mp valid with ⟨characters, rfl⟩
  rcases Utf8.trimmed_flatMap_encodeChar characters with ⟨kept, nulls, _, trimmed⟩
  have read : Utf8.decode (kept.flatMap encodeChar) = String.ofList kept := by
    rw [← encode_ofList, Utf8.decode_encode]
  have filled := Bytes.padded_trimmed (characters.flatMap encodeChar)
  rw [width] at filled
  rw [regionText, trimmed, read, region, encode_ofList, ← trimmed]
  exact filled

theorem toNat_word {bytes : Bytes} (width : bytes.length = 8) :
    (word bytes).toNat = bytes.ofLittleEndian := by
  have bound := bytes.ofLittleEndian_lt
  rw [width] at bound
  rw [word, UInt64.toNat_ofNat']
  exact Nat.mod_eq_of_lt bound

/-- A header that was read from texts and numbers is laid out as it was found. -/
theorem laidOut_ofBytes {wire : Bytes} (textual : Textual wire) :
    (ofBytes wire).LaidOut (wire.take 225) := by
  have width := textual.width
  have slice (start count : Nat) (within : start + count ≤ 225) :
      ((wire.take 225).drop start).take count = (wire.drop start).take count := by
    rw [List.drop_take, List.take_take, Nat.min_eq_left (by omega)]
  have filled (start count : Nat) (within : start + count ≤ 225) :
      ((wire.drop start).take count).length = count := by
    rw [List.length_take, List.length_drop]
    omega
  constructor
  · rw [List.length_take]
    omega
  · cases wire with
    | nil => simp at width
    | cons tag rest => rfl
  · rw [slice 1 8 (by decide), ← toNat_toUInt64, ← toNat_word (filled 1 8 (by decide))]
    rfl
  · rw [slice 9 8 (by decide), ← timeoutWord_eq, ← toNat_word (filled 9 8 (by decide))]
    exact (timeoutWord_ofMillis _).symm
  · rw [slice 17 8 (by decide), ← toNat_word (filled 17 8 (by decide))]
    rfl
  · rw [slice 25 100 (by decide), ← region_eq_field]
    exact (region_regionText (filled 25 100 (by decide)) textual.contentType).symm
  · rw [slice 125 100 (by decide), ← region_eq_field]
    exact (region_regionText (filled 125 100 (by decide)) textual.endpoint).symm

theorem encode_ofBytes {wire : Bytes} (textual : Textual wire) :
    (ofBytes wire).encode = wire.take 225 :=
  (laidOut_encode _).unique (laidOut_ofBytes textual)

/-- A header whose regions hold valid text is read, and what was read is written as the same bytes.
So no two such headers that differ are read as the same one. -/
theorem text_is_read_without_loss {wire : Bytes} (textual : Textual wire) :
    ∃ header, decode wire = .ok header ∧ header.encode = wire.take 225 ∧
      ∀ other, Textual other → decode other = .ok header → other.take 225 = wire.take 225 := by
  have read {bytes : Bytes} (valid : Textual bytes) : decode bytes = .ok (ofBytes bytes) :=
    if_neg (Nat.not_lt.mpr valid.width)
  refine ⟨ofBytes wire, read textual, encode_ofBytes textual, ?_⟩
  intro other valid same
  rw [read valid, Except.ok.injEq] at same
  rw [← encode_ofBytes valid, same, encode_ofBytes textual]

/-- Words of which every bit is set, a text with a null character in its midst, and one that fills
its region. -/
def brimming : Bytes :=
  7 :: (List.replicate 24 0xFF ++ region "a\x00é" ++
    region (String.ofList ('x' :: List.replicate 33 '€')))

theorem brimming_is_read_without_loss :
    Textual brimming ∧ ∃ header, decode brimming = .ok header ∧ header.encode = brimming.take 225 ∧
      ∀ other, Textual other → decode other = .ok header → other.take 225 = brimming.take 225 := by
  have textual : Textual brimming :=
    ⟨by simp [brimming, regionWidth], by decide +kernel, by decide +kernel⟩
  exact ⟨textual, text_is_read_without_loss textual⟩

end Header

end Switchboard
