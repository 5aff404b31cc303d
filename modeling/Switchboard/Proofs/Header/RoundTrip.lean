import Switchboard.Proofs.Header.Carried

/-!
# Headers through their wire form

The layout of a header can be said without writing one: which bytes hold which number, and which
hold which text. `LaidOut` says it, and exactly one byte string is laid out for a header. So
whatever is true of the layout is true of what is written, and of nothing else.

Reading the wire form gives the header back, up to what it has no room for. `wire_form_keeps_header`
says what that is, and for which headers there is nothing of the kind. A text that is too long for
its region is changed, with one exception: if the region ends inside a replacement at the very end
of the text, what is left of the replacement is read as one (`carried_of_cut_replacement`).
-/

namespace Switchboard

namespace Bytes

/-- Cutting or padding is cutting what has been padded enough. -/
theorem padded_eq_take (width : Nat) (content : Bytes) :
    padded width content = (content ++ List.replicate width 0).take width := by
  rw [padded, List.take_append, List.take_replicate, Nat.min_eq_left (Nat.sub_le _ _)]

theorem eq_of_ofLittleEndian_eq {left right : Bytes} (width : left.length = right.length)
    (number : left.ofLittleEndian = right.ofLittleEndian) : left = right := by
  rw [← littleEndian_ofLittleEndian left, ← littleEndian_ofLittleEndian right, width, number]

end Bytes

theorem Duration.millis_eq (duration : Duration) :
    duration.millis = duration.totalNanos / nanosPerMilli := by
  simp only [millis, totalNanos, nanosPerSecond, nanosPerMilli]
  omega

namespace Header

open Utf8 (encodeChar replacement)

/-! ## The layout -/

/-- What a region of 100 bytes holds of a text: its bytes, and zero bytes as far as there is
room. -/
def field (text : String) : Bytes :=
  (Utf8.encode text ++ List.replicate 100 0).take 100

/-- The parts of a header, each at its place. A sender below zero is its two's complement. -/
structure LaidOut (header : Header) (wire : Bytes) : Prop where
  width : wire.length = 225
  tag : wire.take 1 = [header.tag]
  userId : Bytes.ofLittleEndian ((wire.drop 1).take 8) = (header.userId.toInt % UInt64.size).toNat
  timeout : Bytes.ofLittleEndian ((wire.drop 9).take 8) =
    min (header.timeout.totalNanos / nanosPerMilli) (UInt64.size - 1)
  bodySize : Bytes.ofLittleEndian ((wire.drop 17).take 8) = header.bodySize.toNat
  contentType : (wire.drop 25).take 100 = field header.contentType
  endpoint : (wire.drop 125).take 100 = field header.endpoint

theorem region_eq_field (text : String) : region text = field text :=
  Bytes.padded_eq_take _ _

theorem timeoutWord_eq (timeout : Duration) :
    timeoutWord timeout = min (timeout.totalNanos / nanosPerMilli) (UInt64.size - 1) := by
  rw [timeoutWord, Duration.millis_eq]

theorem ofLittleEndian_word {number : Nat} (fits : number < UInt64.size) :
    (Bytes.littleEndian wordWidth number).ofLittleEndian = number := by
  rw [Bytes.ofLittleEndian_littleEndian]
  exact Nat.mod_eq_of_lt fits

/-- The bits of a signed number, read without a sign, are its two's complement. -/
theorem toNat_toUInt64 (number : Int64) :
    number.toUInt64.toNat = (number.toInt % UInt64.size).toNat := by
  have bits : number.toUInt64.toNat = number.toBitVec.toNat := rfl
  have signed : number.toInt = number.toBitVec.toInt := rfl
  have bound := number.toBitVec.isLt
  rw [bits, signed, BitVec.toInt_eq_toNat_bmod, Int.bmod, UInt64.size]
  omega

theorem laidOut_encode (header : Header) : header.LaidOut header.encode := by
  have slices := header.slices_encode_append []
  rw [List.append_nil] at slices
  rcases slices with ⟨userId, timeout, bodySize, contentType, endpoint⟩
  constructor
  · exact length_encode header
  · rfl
  · rw [← toNat_toUInt64, ← ofLittleEndian_word header.userId.toUInt64.toNat_lt]
    exact congrArg Bytes.ofLittleEndian userId
  · have fits : timeoutWord header.timeout < UInt64.size :=
      Nat.lt_of_le_of_lt (Nat.min_le_right _ _) (by decide)
    rw [← timeoutWord_eq, ← ofLittleEndian_word fits]
    exact congrArg Bytes.ofLittleEndian timeout
  · rw [← ofLittleEndian_word header.bodySize.toNat_lt]
    exact congrArg Bytes.ofLittleEndian bodySize
  · rw [← region_eq_field]
    exact contentType
  · rw [← region_eq_field]
    exact endpoint

theorem slices_append {wire : Bytes} (width : wire.length = 225) :
    wire.take 1 ++ ((wire.drop 1).take 8 ++ ((wire.drop 9).take 8 ++ ((wire.drop 17).take 8 ++
      ((wire.drop 25).take 100 ++ (wire.drop 125).take 100)))) = wire := by
  have joined (start count : Nat) :
      (wire.drop start).take count ++ wire.drop (start + count) = wire.drop start := by
    rw [← List.drop_drop, List.take_append_drop]
  have last : (wire.drop 125).take 100 = wire.drop 125 := by
    apply List.take_of_length_le
    rw [List.length_drop]
    omega
  rw [last, joined 25 100, joined 17 8, joined 9 8, joined 1 8, List.take_append_drop]

/-- At most one byte string is laid out for a header. -/
theorem LaidOut.unique {header : Header} {left right : Bytes} (leftLaid : header.LaidOut left)
    (rightLaid : header.LaidOut right) : left = right := by
  have word {start : Nat} (inside : start + 8 ≤ 225)
      (same : Bytes.ofLittleEndian ((left.drop start).take 8) =
        Bytes.ofLittleEndian ((right.drop start).take 8)) :
      (left.drop start).take 8 = (right.drop start).take 8 := by
    apply Bytes.eq_of_ofLittleEndian_eq _ same
    simp only [List.length_take, List.length_drop, leftLaid.width, rightLaid.width]
  rw [← slices_append leftLaid.width, ← slices_append rightLaid.width,
    leftLaid.tag, rightLaid.tag,
    word (by omega) (leftLaid.userId.trans rightLaid.userId.symm),
    word (by omega) (leftLaid.timeout.trans rightLaid.timeout.symm),
    word (by omega) (leftLaid.bodySize.trans rightLaid.bodySize.symm),
    leftLaid.contentType, rightLaid.contentType, leftLaid.endpoint, rightLaid.endpoint]

/-! ## Texts that are kept -/

/-- A text that goes through a region unchanged: either it fits and has no null character at its
end, or it ends in a replacement and the region ends inside that. -/
def Endures (text : String) : Prop :=
  ((Utf8.encode text).length ≤ 100 ∧ text.toList.getLast? ≠ some '\x00') ∨
    (((Utf8.encode text).length = 101 ∨ (Utf8.encode text).length = 102) ∧
      text.toList.getLast? = some replacement)

instance (text : String) : Decidable (Endures text) :=
  inferInstanceAs (Decidable (_ ∨ _))

/-- A text that fits is kept unless it ends in a null character. -/
theorem carried_eq_self_iff_of_fits {text : String}
    (fits : (Utf8.encode text).length ≤ regionWidth) :
    carried text = text ↔ text.toList.getLast? ≠ some '\x00' := by
  have whole : carried text = Utf8.decode (Bytes.trimmed (Utf8.encode text)) := by
    rw [carried, List.take_of_length_le fits]
  cases ending : text.toList.getLast? with
  | none =>
      have nothing : text = "" := String.toList_eq_nil_iff.mp (List.getLast?_eq_none_iff.mp ending)
      rw [nothing]
      exact ⟨fun _ => by simp, fun _ => rfl⟩
  | some last =>
      rcases List.getLast?_eq_some_iff.mp ending with ⟨characters, split⟩
      have bytes : Utf8.encode text = characters.flatMap encodeChar ++ encodeChar last := by
        rw [Utf8.encode, split, List.flatMap_append, List.flatMap_singleton]
      by_cases null : last = '\x00'
      · -- What is read has lost the last character, and perhaps more of the same.
        rcases Utf8.trimmed_flatMap_encodeChar characters with ⟨kept, count, rfl, shorter⟩
        have zero : Bytes.trimmed (encodeChar last) = [] := by
          rw [null]
          rfl
        have read := Utf8.decodeFrom_flatMap_encodeChar_append kept []
        simp only [List.append_nil, Utf8.decodeFrom_nil, Utf8.finish] at read
        rw [whole, bytes, Bytes.trimmed_append, if_pos zero, shorter, Utf8.decode, read, null]
        refine ⟨fun same => ?_, fun other => absurd rfl other⟩
        have length := congrArg (fun text : String => text.toList.length) same
        simp only [String.toList_ofList, split, List.length_append, List.length_singleton] at length
        omega
      · have spelt := Bytes.trimmed_of_ne_zero fun _ mem => Utf8.ne_zero_of_mem_encodeChar null mem
        have nonempty : encodeChar last ≠ [] := by
          intro empty
          have settled := Utf8.spells_encodeChar last
          rw [empty] at settled
          cases settled
        rw [whole, bytes, Bytes.trimmed_append, spelt, if_neg nonempty, ← bytes, Utf8.decode_encode]
        simp [null]

/-- A text that does not fit is only kept if the region ends inside a replacement at its end. -/
theorem carried_eq_self_iff_of_long {text : String}
    (long : regionWidth < (Utf8.encode text).length) :
    carried text = text ↔
      ((Utf8.encode text).length = 101 ∨ (Utf8.encode text).length = 102) ∧
        text.toList.getLast? = some replacement := by
  have width : regionWidth = 100 := rfl
  have single : (encodeChar replacement).length = 3 := rfl
  have written (kept : List Char) : (Utf8.encode (String.ofList (kept ++ [replacement]))).length =
      (kept.flatMap encodeChar).length + 3 := by
    rw [Utf8.encode, String.toList_ofList, List.flatMap_append, List.flatMap_singleton,
      List.length_append, single]
  constructor
  · intro same
    rcases carried_cases text with ⟨kept, ⟨_, fits, short⟩ | ⟨_, short, cut⟩⟩
    · rw [← same, short, Utf8.encode, String.toList_ofList] at long
      omega
    · rw [same] at cut
      rw [cut, written] at long ⊢
      rw [String.toList_ofList, List.getLast?_concat]
      exact ⟨by omega, rfl⟩
  · rintro ⟨length, last⟩
    rcases List.getLast?_eq_some_iff.mp last with ⟨kept, split⟩
    have same : text = String.ofList (kept ++ [replacement]) := by
      rw [← split, String.ofList_toList]
    rw [same, written] at length
    rw [same]
    exact carried_of_cut_replacement (by omega) (by omega)

theorem carried_eq_self_iff (text : String) : carried text = text ↔ Endures text := by
  have width : regionWidth = 100 := rfl
  rcases Nat.lt_or_ge regionWidth (Utf8.encode text).length with long | fits
  · rw [carried_eq_self_iff_of_long long, Endures]
    constructor
    · exact Or.inr
    · rintro (⟨short, _⟩ | kept)
      · omega
      · exact kept
  · rw [carried_eq_self_iff_of_fits fits, Endures]
    constructor
    · intro kept
      exact Or.inl ⟨fits, kept⟩
    · rintro (⟨_, kept⟩ | ⟨long, _⟩)
      · exact kept
      · omega

example : Endures (String.ofList ('a' :: 'b' :: List.replicate 33 replacement)) := by decide

/-! ## Headers that are kept -/

/-- Whole milliseconds are kept as far as a word reaches. -/
theorem ofMillis_timeoutWord_eq_self_iff (timeout : Duration) :
    Duration.ofMillis (UInt64.ofNat (timeoutWord timeout)) = timeout ↔
      nanosPerMilli ∣ timeout.totalNanos ∧
        timeout.totalNanos / nanosPerMilli ≤ UInt64.size - 1 := by
  have fits : timeoutWord timeout < UInt64.size :=
    Nat.lt_of_le_of_lt (Nat.min_le_right _ _) (by decide)
  have nanos : (Duration.ofMillis (UInt64.ofNat (timeoutWord timeout))).totalNanos =
      timeoutWord timeout * nanosPerMilli := by
    rw [Duration.totalNanos_ofMillis, UInt64.toNat_ofNat', Nat.mod_eq_of_lt fits]
  have same : Duration.ofMillis (UInt64.ofNat (timeoutWord timeout)) = timeout ↔
      timeoutWord timeout * nanosPerMilli = timeout.totalNanos := by
    rw [← nanos]
    exact ⟨congrArg Duration.totalNanos, Duration.ext_totalNanos⟩
  rw [same, timeoutWord_eq]
  simp only [nanosPerMilli, UInt64.size]
  omega

theorem received_eq_self_iff (header : Header) :
    header.received = header ↔
      (nanosPerMilli ∣ header.timeout.totalNanos ∧
          header.timeout.totalNanos / nanosPerMilli ≤ UInt64.size - 1) ∧
        Endures header.contentType ∧ Endures header.endpoint := by
  rw [← ofMillis_timeoutWord_eq_self_iff, ← carried_eq_self_iff, ← carried_eq_self_iff]
  rcases header with ⟨tag, userId, timeout, bodySize, contentType, endpoint⟩
  simp only [received, mk.injEq, true_and]

theorem decode_encode (header : Header) : decode header.encode = .ok header.received := by
  have complete : ¬header.encode.length < width := by
    rw [length_encode]
    exact Nat.lt_irrefl _
  have read := header.ofBytes_encode_append []
  rw [List.append_nil] at read
  rw [decode, if_neg complete, read]

/-- The wire form of a header is the one byte string that is laid out for it. It is always read, as
the header with its timeout in whole milliseconds and with as much of its texts as their regions
hold. It is read as the header itself exactly if the timeout is a number of milliseconds that a word
can hold and both texts endure. -/
theorem wire_form_keeps_header (header : Header) :
    (∀ wire, header.LaidOut wire ↔ wire = header.encode) ∧
      decode header.encode = .ok { header with
        timeout := .ofMillis (UInt64.ofNat
          (min (header.timeout.totalNanos / nanosPerMilli) (UInt64.size - 1)))
        contentType := Utf8.decode (Bytes.trimmed ((Utf8.encode header.contentType).take 100))
        endpoint := Utf8.decode (Bytes.trimmed ((Utf8.encode header.endpoint).take 100)) } ∧
      (decode header.encode = .ok header ↔
        (nanosPerMilli ∣ header.timeout.totalNanos ∧
            header.timeout.totalNanos / nanosPerMilli ≤ UInt64.size - 1) ∧
          Endures header.contentType ∧ Endures header.endpoint) := by
  refine ⟨?_, ?_, ?_⟩
  · intro wire
    constructor
    · intro laidOut
      exact laidOut.unique header.laidOut_encode
    · rintro rfl
      exact header.laidOut_encode
  · rw [decode_encode, received, timeoutWord_eq]
    rfl
  · rw [decode_encode, Except.ok.injEq, received_eq_self_iff]

end Header

end Switchboard
