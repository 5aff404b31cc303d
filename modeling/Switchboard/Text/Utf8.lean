import Switchboard.Bytes

/-!
# UTF-8, with replacement of what is not text

Writing text gives the one to four bytes of each character. Reading bytes never fails: wherever no
character can be continued, the bytes that could still have begun one are replaced together by
U+FFFD, and reading goes on with the byte that did not fit. Bytes that can begin no character are
replaced one by one, and so is a character that the end of the input cuts short.

Reading is a machine over single bytes. `decodeFrom_cons` and `decodeFrom_nil` say what the machine
does with the first byte and at the end; everything else about reading follows from them.
-/

namespace Switchboard.Utf8

/-- The character that stands for bytes that are not text. -/
def replacement : Char := '\uFFFD'

def encodeChar (character : Char) : Bytes :=
  let code := character.toNat
  if code < 0x80 then [UInt8.ofNat code]
  else if code < 0x800 then [UInt8.ofNat (0xC0 + code / 64), UInt8.ofNat (0x80 + code % 64)]
  else if code < 0x10000 then
    [UInt8.ofNat (0xE0 + code / 4096), UInt8.ofNat (0x80 + code / 64 % 64),
      UInt8.ofNat (0x80 + code % 64)]
  else
    [UInt8.ofNat (0xF0 + code / 262144), UInt8.ofNat (0x80 + code / 4096 % 64),
      UInt8.ofNat (0x80 + code / 64 % 64), UInt8.ofNat (0x80 + code % 64)]

def encode (text : String) : Bytes :=
  text.toList.flatMap encodeChar

/-- Where reading stands between two bytes. -/
inductive Progress
  | between
  /-- A character has begun: its bits so far, how many bytes are still owed after the next one, and
  the range in which the next one must lie. -/
  | within (bits owed low high : Nat)
  deriving DecidableEq, Repr

/-- What the first byte of a character says: the characters that are settled by it, and where
reading stands after it. -/
def start (byte : UInt8) : List Char × Progress :=
  let code := byte.toNat
  if code < 0x80 then ([Char.ofNat code], .between)
  else if code < 0xC2 then ([replacement], .between)
  else if code < 0xE0 then ([], .within (code - 0xC0) 0 0x80 0xBF)
  else if code < 0xF0 then
    ([], .within (code - 0xE0) 1 (if code = 0xE0 then 0xA0 else 0x80)
      (if code = 0xED then 0x9F else 0xBF))
  else if code < 0xF5 then
    ([], .within (code - 0xF0) 2 (if code = 0xF0 then 0x90 else 0x80)
      (if code = 0xF4 then 0x8F else 0xBF))
  else ([replacement], .between)

/-- One byte: the characters that are settled by it, and where reading stands after it. A byte that
does not fit settles the unfinished character as a replacement and starts afresh. -/
def step : Progress → UInt8 → List Char × Progress
  | .between, byte => start byte
  | .within bits owed low high, byte =>
      if low ≤ byte.toNat ∧ byte.toNat ≤ high then
        let longer := bits * 64 + (byte.toNat - 0x80)
        match owed with
        | 0 => ([Char.ofNat longer], .between)
        | owed + 1 => ([], .within longer owed 0x80 0xBF)
      else (replacement :: (start byte).1, (start byte).2)

/-- The end of the input replaces a character that has only begun. -/
def finish : Progress → List Char
  | .between => []
  | .within .. => [replacement]

/-- Characters read so far, the latest first, and where reading stands. -/
structure Decoder where
  /-- The characters read, the latest first. -/
  decoded : List Char
  progress : Progress

def Decoder.feed (decoder : Decoder) (byte : UInt8) : Decoder :=
  let (settled, progress) := step decoder.progress byte
  ⟨settled.reverse ++ decoder.decoded, progress⟩

/-- The characters of the remaining bytes, from any point of the reading. -/
def decodeFrom (progress : Progress) (bytes : Bytes) : List Char :=
  let decoder := bytes.foldl Decoder.feed ⟨[], progress⟩
  ((finish decoder.progress).reverse ++ decoder.decoded).reverse

/-- The text that bytes stand for, with replacements for what is not text. -/
def decode (bytes : Bytes) : String :=
  String.ofList (decodeFrom .between bytes)

@[simp]
theorem decodeFrom_nil (progress : Progress) : decodeFrom progress [] = finish progress := by
  simp [decodeFrom]

private theorem foldl_feed (bytes : Bytes) (decoded : List Char) (progress : Progress) :
    bytes.foldl Decoder.feed ⟨decoded, progress⟩ =
      ⟨(bytes.foldl Decoder.feed ⟨[], progress⟩).decoded ++ decoded,
        (bytes.foldl Decoder.feed ⟨[], progress⟩).progress⟩ := by
  induction bytes generalizing decoded progress with
  | nil => rfl
  | cons byte rest ih =>
      simp only [List.foldl_cons, Decoder.feed]
      rw [ih, ih ((step progress byte).1.reverse ++ [])]
      simp

@[simp]
theorem decodeFrom_cons (progress : Progress) (byte : UInt8) (rest : Bytes) :
    decodeFrom progress (byte :: rest) =
      (step progress byte).1 ++ decodeFrom (step progress byte).2 rest := by
  simp only [decodeFrom, List.foldl_cons, Decoder.feed]
  rw [foldl_feed]
  simp

end Switchboard.Utf8
