import Switchboard.Proofs.Header.RoundTrip

/-!
# Headers that have travelled

A header that has been read from its wire form is settled: written and read once more, it is the
same. The first trip takes from the timeout what a word of milliseconds has no room for, and from
each text what its region has no room for. What a text becomes depends on where its region ends. If
that is between two characters, or behind the text, the text is what stands before, without null
characters at the end. If it is inside a character, a replacement takes the place of that one
(`Settles`). The replacement may be longer than what it stands for, so a settled text need not fit
into its region; it is kept nevertheless (`carried_carried`).
-/

namespace Switchboard.Header

open Utf8 (encodeChar replacement)

/-! ## Where a region ends -/

/-- The region of a text ends behind the text or between two of its characters. -/
def EndsEvenly (text : String) : Prop :=
  (Utf8.encode text).length ≤ 100 ∨
    ∃ kept later, text.toList = kept ++ later ∧ (Utf8.encode (String.ofList kept)).length = 100

/-- What a text has become after one trip. -/
structure Settles (text settled : String) : Prop where
  /-- The characters before the end of the region, without the null characters at their end. -/
  whole : EndsEvenly text → ∃ kept later nulls, text.toList = kept ++ later ∧
    Utf8.encode (String.ofList kept) = (Utf8.encode text).take 100 ∧
    kept = settled.toList ++ List.replicate nulls '\x00' ∧ settled.toList.getLast? ≠ some '\x00'
  /-- As many characters as there is room for, and a single replacement. -/
  cut : ¬EndsEvenly text → ∃ kept next later, text.toList = kept ++ next :: later ∧
    settled = String.ofList (kept ++ [replacement]) ∧
    97 ≤ (Utf8.encode (String.ofList kept)).length ∧
    (Utf8.encode (String.ofList kept)).length ≤ 99 ∧
    100 < (Utf8.encode (String.ofList (kept ++ [next]))).length

theorem encode_ofList (characters : List Char) :
    Utf8.encode (String.ofList characters) = characters.flatMap encodeChar := by
  rw [Utf8.encode, String.toList_ofList]

theorem endsEvenly_of_whole {text : String} {whole later : List Char}
    (split : text.toList = whole ++ later)
    (complete : (Utf8.encode text).take 100 = whole.flatMap encodeChar) : EndsEvenly text := by
  rcases Nat.lt_or_ge 100 (Utf8.encode text).length with long | fits
  · right
    refine ⟨whole, later, split, ?_⟩
    rw [encode_ofList, ← complete, List.length_take, Nat.min_eq_left (Nat.le_of_lt long)]
  · exact Or.inl fits

/-- If the region ends inside a character, it ends neither before nor behind it. -/
theorem not_endsEvenly_of_cut {text : String} {whole rest : List Char} {cut : Char}
    (split : text.toList = whole ++ cut :: rest) (before : (whole.flatMap encodeChar).length < 100)
    (behind : 100 < (whole.flatMap encodeChar).length + (encodeChar cut).length) :
    ¬EndsEvenly text := by
  rintro (fits | ⟨kept, later, other, exact⟩)
  · rw [Utf8.encode, split, List.flatMap_append, List.flatMap_cons, List.length_append,
      List.length_append] at fits
    omega
  · rw [encode_ofList] at exact
    rcases List.append_eq_append_iff.mp (split.symm.trans other) with
      ⟨more, same, tail⟩ | ⟨more, same, _⟩
    · rcases more with _ | ⟨next, more⟩
      · rw [same, List.append_nil] at exact
        omega
      · rw [List.cons_append, List.cons.injEq] at tail
        rw [same, ← tail.1, List.flatMap_append, List.flatMap_cons, List.length_append,
          List.length_append] at exact
        omega
    · rw [same, List.flatMap_append, List.length_append] at before
      omega

/-! ## One trip -/

/-- Trimmed bytes do not end in a zero byte, so the characters that they spell do not end in a null
character. -/
theorem getLast?_ne_null_of_trimmed {kept : List Char}
    (trimmed : Bytes.trimmed (kept.flatMap encodeChar) = kept.flatMap encodeChar) :
    kept.getLast? ≠ some '\x00' := by
  intro null
  rcases List.getLast?_eq_some_iff.mp null with ⟨earlier, rfl⟩
  have zero : Bytes.trimmed (encodeChar '\x00') = [] := rfl
  rw [List.flatMap_append, List.flatMap_singleton, Bytes.trimmed_append, if_pos zero] at trimmed
  have shorter := Bytes.length_trimmed_le (earlier.flatMap encodeChar)
  have single : (encodeChar '\x00').length = 1 := rfl
  rw [trimmed, List.length_append] at shorter
  omega

theorem settles_carried (text : String) : Settles text (carried text) := by
  have width : regionWidth = 100 := rfl
  rcases Utf8.take_flatMap_encodeChar text.toList regionWidth with
    ⟨whole, later, split, complete | ⟨cut, rest, taken, rfl, positive, short, length, partly⟩⟩
  · rcases carried_of_whole complete with ⟨kept, nulls, same, trimmed, _, arrived⟩
    have even := endsEvenly_of_whole split complete
    refine ⟨fun _ => ⟨whole, later, nulls, split, ?_, ?_, ?_⟩, fun uneven => absurd even uneven⟩
    · rw [encode_ofList]
      exact complete.symm
    · rw [arrived, String.toList_ofList, same]
    · rw [arrived, String.toList_ofList]
      exact getLast?_ne_null_of_trimmed trimmed
  · have most := Utf8.length_encodeChar_le cut
    have uneven := not_endsEvenly_of_cut split (by omega) (by omega)
    have arrived := carried_of_cut positive short partly
    refine ⟨fun even => absurd even uneven, fun _ => ⟨whole, cut, rest, split, arrived, ?_, ?_, ?_⟩⟩
    · rw [encode_ofList]
      omega
    · rw [encode_ofList]
      omega
    · rw [encode_ofList, List.flatMap_append, List.flatMap_singleton, List.length_append]
      omega

/-- A word of milliseconds is written as it was read. -/
theorem timeoutWord_ofMillis (count : UInt64) : timeoutWord (.ofMillis count) = count.toNat := by
  have small := count.toNat_lt
  rw [timeoutWord_eq, Duration.totalNanos_ofMillis, Nat.mul_div_cancel _ (by decide)]
  exact Nat.min_eq_left (by rw [UInt64.size]; omega)

@[simp]
theorem received_received (header : Header) : header.received.received = header.received := by
  simp only [received, timeoutWord_ofMillis, UInt64.ofNat_toNat, carried_carried]

/-- One trip settles a header for good. The header that is read is written and read without any
further change, and its texts are what their regions had room for, with a replacement for a
character that a region has cut. -/
theorem one_trip_settles (header : Header) :
    ∃ settled, decode header.encode = .ok settled ∧ decode settled.encode = .ok settled ∧
      Settles header.contentType settled.contentType ∧
      Settles header.endpoint settled.endpoint := by
  refine ⟨header.received, decode_encode header, ?_, settles_carried _, settles_carried _⟩
  rw [decode_encode, received_received]

/-- Thirty-three characters of three bytes fit, and of the next one a single byte; the replacement
has three. -/
example : carried (String.ofList (List.replicate 34 '€')) =
    String.ofList (List.replicate 33 '€' ++ [replacement]) := by decide +kernel

end Switchboard.Header
