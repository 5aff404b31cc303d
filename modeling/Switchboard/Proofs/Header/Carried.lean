import Switchboard.Header.Codec
import Switchboard.Proofs.Text.Cut

/-!
# What a header carries

Writing a header and reading it again keeps its tag, its sender and the size of its body. The
timeout comes back in whole milliseconds. A text comes back as far as its region reaches, without
the null characters at its end; if the region ends inside a character, a replacement stands for that
one.

A text that has been through a region once goes through it unchanged ever after. This is not
obvious, because the replacement may be longer than what it stands for, so that the text no longer
fits and is cut again, this time inside the replacement (`carried_carried`).
-/

namespace Switchboard

namespace Bytes

theorem trimmed_append (left right : Bytes) :
    trimmed (left ++ right) =
      if trimmed right = [] then trimmed left else left ++ trimmed right := by
  induction left with
  | nil => by_cases empty : trimmed right = [] <;> simp [empty, trimmed]
  | cons byte rest ih =>
      rw [List.cons_append, trimmed, ih]
      by_cases empty : trimmed right = []
      · simp [empty, trimmed]
      · rw [if_neg empty, if_neg empty]
        rcases joined : rest ++ trimmed right with _ | ⟨next, more⟩
        · simp only [List.append_eq_nil_iff] at joined
          exact absurd joined.2 empty
        · simp [joined]

theorem trimmed_of_ne_zero {bytes : Bytes} (nonzero : ∀ byte ∈ bytes, byte ≠ 0) :
    trimmed bytes = bytes := by
  induction bytes with
  | nil => rfl
  | cons byte rest ih =>
      have here := nonzero byte List.mem_cons_self
      rw [trimmed, ih fun other mem => nonzero other (List.mem_cons_of_mem _ mem)]
      rcases rest with _ | ⟨next, more⟩
      · simp [here]
      · rfl

theorem trimmed_trimmed (bytes : Bytes) : trimmed (trimmed bytes) = trimmed bytes := by
  have whole := trimmed_append_replicate_zero (trimmed bytes)
    (bytes.length - (trimmed bytes).length)
  rw [trimmed_append_zeros] at whole
  exact whole.symm

end Bytes

namespace Utf8

/-- Trimming what was written for some characters takes away the null characters at their end. -/
theorem trimmed_flatMap_encodeChar (characters : List Char) :
    ∃ kept count, characters = kept ++ List.replicate count '\x00' ∧
      Bytes.trimmed (characters.flatMap encodeChar) = kept.flatMap encodeChar := by
  induction characters with
  | nil => exact ⟨[], 0, rfl, rfl⟩
  | cons character characters ih =>
      rcases ih with ⟨kept, count, rfl, trimmed⟩
      rw [List.flatMap_cons, Bytes.trimmed_append, trimmed]
      by_cases empty : kept.flatMap encodeChar = []
      · rw [if_pos empty]
        have none : kept = [] := by
          rcases kept with _ | ⟨first, kept⟩
          · rfl
          · have length := congrArg List.length empty
            have spelt := spells_encodeChar first
            rw [List.flatMap_cons, List.length_append] at length
            cases step : encodeChar first with
            | nil =>
                rw [step] at spelt
                cases spelt
            | cons byte rest => simp [step] at length
        subst none
        by_cases null : character = '\x00'
        · refine ⟨[], count + 1, ?_, ?_⟩
          · rw [null]
            rfl
          · rw [null]
            rfl
        · refine ⟨[character], count, rfl, ?_⟩
          rw [List.flatMap_singleton]
          exact Bytes.trimmed_of_ne_zero fun byte mem => ne_zero_of_mem_encodeChar null mem
      · rw [if_neg empty]
        exact ⟨character :: kept, count, rfl, rfl⟩

end Utf8

namespace Header

open Utf8 (encodeChar replacement)

/-- What a header carries of a text: what its first bytes stand for, without the null characters at
the end. -/
def carried (text : String) : String :=
  Utf8.decode (Bytes.trimmed ((Utf8.encode text).take regionWidth))

/-- A text is read from a region as the region carries it. -/
theorem regionText_region (text : String) : regionText (region text) = carried text := by
  rw [regionText, region, Bytes.trimmed_padded, carried]

/-- A region that ends between two characters, or behind the last one, carries the characters before
its end, without the null characters among them that come last. -/
theorem carried_of_whole {text : String} {whole : List Char}
    (complete : (Utf8.encode text).take regionWidth = whole.flatMap encodeChar) :
    ∃ kept count, whole = kept ++ List.replicate count '\x00' ∧
      Bytes.trimmed (kept.flatMap encodeChar) = kept.flatMap encodeChar ∧
      (kept.flatMap encodeChar).length ≤ regionWidth ∧ carried text = String.ofList kept := by
  have bounded := List.length_take_le regionWidth (Utf8.encode text)
  rw [complete] at bounded
  rcases Utf8.trimmed_flatMap_encodeChar whole with ⟨kept, count, same, shorter⟩
  refine ⟨kept, count, same, ?_, ?_, ?_⟩
  · rw [← shorter, Bytes.trimmed_trimmed]
  · rw [← shorter]
    exact Nat.le_trans (Bytes.length_trimmed_le _) bounded
  · have read := Utf8.decodeFrom_flatMap_encodeChar_append kept []
    simp only [List.append_nil, Utf8.decodeFrom_nil, Utf8.finish] at read
    rw [carried, complete, shorter, Utf8.decode, read]

/-- A region that ends inside a character carries the characters before that one, and a
replacement. -/
theorem carried_of_cut {text : String} {whole : List Char} {cut : Char} {taken : Nat}
    (positive : 0 < taken) (short : taken < (encodeChar cut).length)
    (partly : (Utf8.encode text).take regionWidth =
      whole.flatMap encodeChar ++ (encodeChar cut).take taken) :
    carried text = String.ofList (whole ++ [replacement]) := by
  have notNull : cut ≠ '\x00' := by
    intro null
    rw [null] at short
    have single : (encodeChar '\x00').length = 1 := rfl
    omega
  have beginning : Bytes.trimmed ((encodeChar cut).take taken) = (encodeChar cut).take taken :=
    Bytes.trimmed_of_ne_zero fun byte mem =>
      Utf8.ne_zero_of_mem_encodeChar notNull (List.mem_of_mem_take mem)
  have nonempty : (encodeChar cut).take taken ≠ [] := by
    intro empty
    have none := congrArg List.length empty
    rw [List.length_take, List.length_nil] at none
    omega
  rw [carried, partly, Bytes.trimmed_append, beginning, if_neg nonempty, Utf8.decode,
    Utf8.decodeFrom_flatMap_encodeChar_append,
    (Utf8.spells_encodeChar cut).decodeFrom_take positive short]

/-- A region holds the beginning of a text without the null characters at its end. If that ends
inside a character, the region is read with a replacement, and the characters before it leave one to
three bytes. -/
theorem carried_cases (text : String) :
    ∃ kept : List Char,
      (Bytes.trimmed (kept.flatMap encodeChar) = kept.flatMap encodeChar ∧
          (kept.flatMap encodeChar).length ≤ regionWidth ∧ carried text = String.ofList kept) ∨
        (regionWidth ≤ (kept.flatMap encodeChar).length + 3 ∧
          (kept.flatMap encodeChar).length < regionWidth ∧
          carried text = String.ofList (kept ++ [replacement])) := by
  rcases Utf8.take_flatMap_encodeChar text.toList regionWidth with
    ⟨whole, later, _, complete | ⟨cut, rest, taken, _, positive, short, length, partly⟩⟩
  · rcases carried_of_whole complete with ⟨kept, _, _, trimmed, fits, same⟩
    exact ⟨kept, Or.inl ⟨trimmed, fits, same⟩⟩
  · have width := Utf8.length_encodeChar_le cut
    exact ⟨whole, Or.inr ⟨by omega, by omega, carried_of_cut positive short partly⟩⟩

/-- A replacement inside which a region ends is read as a replacement again. -/
theorem carried_of_cut_replacement {kept : List Char}
    (long : regionWidth ≤ (kept.flatMap encodeChar).length + 3)
    (short : (kept.flatMap encodeChar).length < regionWidth) :
    carried (String.ofList (kept ++ [replacement])) = String.ofList (kept ++ [replacement]) := by
  have single : (encodeChar replacement).length = 3 := rfl
  have spelt := Utf8.spells_encodeChar replacement
  have again : (encodeChar replacement).take (regionWidth - (kept.flatMap encodeChar).length) ≠ [] ∧
      Utf8.decodeFrom .between
        ((encodeChar replacement).take (regionWidth - (kept.flatMap encodeChar).length)) =
          [replacement] := by
    constructor
    · intro empty
      have none := congrArg List.length empty
      rw [List.length_take, List.length_nil] at none
      omega
    · rcases Nat.lt_or_ge (regionWidth - (kept.flatMap encodeChar).length) 3 with part | all
      · exact spelt.decodeFrom_take (by omega) (by omega)
      · rw [List.take_of_length_le (by omega)]
        simpa [Utf8.finish] using spelt.decodeFrom_append []
  have beginning := Bytes.trimmed_of_ne_zero fun byte
    (mem : byte ∈ (encodeChar replacement).take
      (regionWidth - (kept.flatMap encodeChar).length)) =>
    Utf8.ne_zero_of_mem_encodeChar (by decide) (List.mem_of_mem_take mem)
  rw [carried, Utf8.encode, String.toList_ofList,
    List.flatMap_append, List.flatMap_singleton, List.take_append,
    List.take_of_length_le (Nat.le_of_lt short), Bytes.trimmed_append, beginning, if_neg again.1,
    Utf8.decode, Utf8.decodeFrom_flatMap_encodeChar_append, again.2]

/-- What went through a region once is kept by every further one. -/
@[simp]
theorem carried_carried (text : String) : carried (carried text) = carried text := by
  rcases carried_cases text with ⟨kept, ⟨trimmed, fits, same⟩ | ⟨long, short, same⟩⟩
  · have read := Utf8.decodeFrom_flatMap_encodeChar_append kept []
    simp only [List.append_nil, Utf8.decodeFrom_nil, Utf8.finish] at read
    rw [same, carried, Utf8.encode, String.toList_ofList,
      List.take_of_length_le fits, trimmed, Utf8.decode, read]
  · rw [same]
    exact carried_of_cut_replacement long short

/-- Only the bytes of a header matter for it. -/
theorem ofBytes_take (bytes : Bytes) : ofBytes (bytes.take width) = ofBytes bytes := by
  have slice (start count : Nat) (within : start + count ≤ width) :
      ((bytes.take width).drop start).take count = (bytes.drop start).take count := by
    rw [List.drop_take, List.take_take, Nat.min_eq_left (by omega)]
  have tag : (bytes.take width).headD 0 = bytes.headD 0 := by
    cases bytes <;> rfl
  simp only [ofBytes, tag]
  rw [slice 1 wordWidth (by decide), slice 9 wordWidth (by decide), slice 17 wordWidth (by decide),
    slice 25 regionWidth (by decide), slice 125 regionWidth (by decide)]

/-- The header that is read where one was written. -/
def received (header : Header) : Header :=
  { header with
    timeout := .ofMillis (UInt64.ofNat (timeoutWord header.timeout))
    contentType := carried header.contentType
    endpoint := carried header.endpoint }

theorem word_littleEndian (number : Nat) :
    word (Bytes.littleEndian wordWidth number) = UInt64.ofNat number := by
  apply UInt64.toNat.inj
  rw [word, Bytes.ofLittleEndian_littleEndian, UInt64.toNat_ofNat', UInt64.toNat_ofNat']
  exact Nat.mod_mod _ _

/-- Behind the tag the words and the regions lie one after the other. -/
theorem slices_encode_append (header : Header) (rest : Bytes) :
    ((header.encode ++ rest).drop 1).take wordWidth =
        Bytes.littleEndian wordWidth header.userId.toUInt64.toNat ∧
      ((header.encode ++ rest).drop 9).take wordWidth =
        Bytes.littleEndian wordWidth (timeoutWord header.timeout) ∧
      ((header.encode ++ rest).drop 17).take wordWidth =
        Bytes.littleEndian wordWidth header.bodySize.toNat ∧
      ((header.encode ++ rest).drop 25).take regionWidth = region header.contentType ∧
      ((header.encode ++ rest).drop 125).take regionWidth = region header.endpoint := by
  have slice (start count : Nat) (before middle after : Bytes) (skipped : before.length = start)
      (width : middle.length = count) :
      ((before ++ (middle ++ after)).drop start).take count = middle := by
    rw [← skipped, ← width, List.drop_left, List.take_left]
  let userId := Bytes.littleEndian wordWidth header.userId.toUInt64.toNat
  let timeout := Bytes.littleEndian wordWidth (timeoutWord header.timeout)
  let bodySize := Bytes.littleEndian wordWidth header.bodySize.toNat
  let contentType := region header.contentType
  let endpoint := region header.endpoint
  have first := slice 1 wordWidth [header.tag] userId
    (timeout ++ bodySize ++ contentType ++ endpoint ++ rest)
    rfl (Bytes.length_littleEndian _ _)
  have second := slice 9 wordWidth (header.tag :: userId) timeout
    (bodySize ++ contentType ++ endpoint ++ rest) (by simp [userId, wordWidth])
    (Bytes.length_littleEndian _ _)
  have third := slice 17 wordWidth (header.tag :: userId ++ timeout) bodySize
    (contentType ++ endpoint ++ rest)
    (by simp [userId, timeout, wordWidth]) (Bytes.length_littleEndian _ _)
  have fourth := slice 25 regionWidth (header.tag :: userId ++ timeout ++ bodySize) contentType
    (endpoint ++ rest)
    (by simp [userId, timeout, bodySize, wordWidth]) (length_region _)
  have fifth := slice 125 regionWidth (header.tag :: userId ++ timeout ++ bodySize ++ contentType)
    endpoint rest
    (by simp [userId, timeout, bodySize, contentType, wordWidth, regionWidth]) (length_region _)
  have wire : header.encode ++ rest =
      header.tag :: (userId ++ (timeout ++ (bodySize ++ (contentType ++ (endpoint ++ rest))))) := by
    simp [encode, userId, timeout, bodySize, contentType, endpoint]
  simp only [List.append_assoc, List.cons_append, List.nil_append]
    at first second third fourth fifth
  rw [wire]
  exact ⟨first, second, third, fourth, fifth⟩

/-- A header is read as it was written, up to what its wire form has no room for. -/
theorem ofBytes_encode_append (header : Header) (rest : Bytes) :
    ofBytes (header.encode ++ rest) = header.received := by
  rcases header.slices_encode_append rest with ⟨userId, timeout, bodySize, contentType, endpoint⟩
  have tag : (header.encode ++ rest).headD 0 = header.tag := rfl
  rw [ofBytes, tag, userId, timeout, bodySize, contentType, endpoint]
  simp only [ofParts, received, regionText_region, word_littleEndian, UInt64.ofNat_toNat]
  rfl

/-- The header of a request is the header of a request when it arrives. -/
@[simp]
theorem received_forRequest (endpoint : String) (bodySize : UInt64) :
    (forRequest endpoint bodySize).received = forRequest (carried endpoint) bodySize := by
  have noTimeout : Duration.ofMillis (UInt64.ofNat (timeoutWord .zero)) = .zero := rfl
  have noContentType : carried "" = "" := rfl
  simp only [received, forRequest, noTimeout, noContentType]

end Header

end Switchboard
