import Switchboard.Header.Codec
import Switchboard.Stream.Reader

/-!
# Reading headers from a stream

A header can be read part by part: the tag, the three words and the two regions, with one exact read
for each. Nothing is returned unless all parts arrive. A stream that ends before is a peer that went
away.
-/

namespace Switchboard.Header

variable {σ : Type}

/-- What a fault means to somebody who waits for a header. -/
def interrupted (fault : Fault) : Error :=
  if fault.kind = .unexpectedEof then .disconnected else .io fault

def readPart (reader : Reader σ) (width : Nat) : EStateM Error σ Bytes :=
  EStateM.adaptExcept interrupted (reader.readExact width)

def readFrom (reader : Reader σ) : EStateM Error σ Header := do
  let tag ← readPart reader 1
  let userId ← readPart reader wordWidth
  let timeout ← readPart reader wordWidth
  let bodySize ← readPart reader wordWidth
  let contentType ← readPart reader regionWidth
  let endpoint ← readPart reader regionWidth
  pure (ofParts (tag.headD 0) userId timeout bodySize contentType endpoint)

end Switchboard.Header
