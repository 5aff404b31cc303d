import Switchboard.Bytes
import Switchboard.Header
import Switchboard.Text.Utf8

/-!
# The wire form of headers

A header is 225 bytes long: the tag, the sender, the timeout in milliseconds and the size of the
body as words of eight bytes, least significant first, and two regions of 100 bytes for the content
type and the name of the endpoint. Texts that are too long are cut at the region's width, even
inside a character; shorter ones are followed by zero bytes.

`encode` always succeeds and has the right length (`length_encode`). `decode` takes the first 225
bytes and fails only if there are fewer; what is not text in a region is replaced.
-/

namespace Switchboard.Header

def wordWidth : Nat := 8

def regionWidth : Nat := 100

def width : Nat := 225

/-- The timeout as it travels: whole milliseconds, as far as a word reaches. -/
def timeoutWord (timeout : Duration) : Nat :=
  min timeout.millis (UInt64.size - 1)

/-- A text region that holds a text or its beginning. -/
def region (text : String) : Bytes :=
  (Utf8.encode text).padded regionWidth

def regionText (bytes : Bytes) : String :=
  Utf8.decode bytes.trimmed

def encode (header : Header) : Bytes :=
  header.tag ::
    (Bytes.littleEndian wordWidth header.userId.toUInt64.toNat ++
      Bytes.littleEndian wordWidth (timeoutWord header.timeout) ++
      Bytes.littleEndian wordWidth header.bodySize.toNat ++
      region header.contentType ++
      region header.endpoint)

def word (bytes : Bytes) : UInt64 :=
  UInt64.ofNat bytes.ofLittleEndian

/-- The header whose parts have the given wire forms. -/
def ofParts (tag : UInt8) (userId timeout bodySize contentType endpoint : Bytes) : Header where
  tag := tag
  userId := (word userId).toInt64
  timeout := .ofMillis (word timeout)
  bodySize := word bodySize
  contentType := regionText contentType
  endpoint := regionText endpoint

/-- The header at the beginning of the bytes, if there are enough of them. -/
def ofBytes (bytes : Bytes) : Header :=
  ofParts (bytes.headD 0)
    ((bytes.drop 1).take wordWidth)
    ((bytes.drop 9).take wordWidth)
    ((bytes.drop 17).take wordWidth)
    ((bytes.drop 25).take regionWidth)
    ((bytes.drop 125).take regionWidth)

/-- Reads the header at the beginning of the bytes. -/
def decode (bytes : Bytes) : Except Error Header :=
  if bytes.length < width then .error (.incompleteHeader width bytes.length)
  else .ok (ofBytes bytes)

@[simp]
theorem length_region (text : String) : (region text).length = regionWidth := by
  simp [region]

@[simp]
theorem length_encode (header : Header) : header.encode.length = width := by
  simp [encode, wordWidth, regionWidth, width]

/-- Only bytes that are too few for a header have none. -/
theorem decode_eq_error_iff {bytes : Bytes} {error : Error} :
    decode bytes = .error error ↔
      bytes.length < width ∧ error = .incompleteHeader width bytes.length := by
  unfold decode
  split
  · next short => simp [short, eq_comm]
  · next enough => simp [enough]

end Switchboard.Header
