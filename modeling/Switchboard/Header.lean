import Switchboard.Error
import Switchboard.Text.Outline
import Switchboard.Time.Duration

/-!
# Headers

Every message begins with a header. It says which kind of endpoint the message is for and which one,
how many bytes of body follow, who sends it, how long the sender is willing to wait and, for people,
what the body is. The kind of endpoint is kept as the tag that travels, so that a header with an
unknown tag is still a header.
-/

namespace Switchboard

/-- The two kinds of endpoints. -/
inductive EndpointKind
  /-- One body in, one body out; the connection stays as it is. -/
  | request
  /-- The handler takes the connection over after the header. -/
  | stream
  deriving DecidableEq, Repr, Inhabited

namespace EndpointKind

def tag : EndpointKind → UInt8
  | .request => 0
  | .stream => 1

def ofTag? (tag : UInt8) : Option EndpointKind :=
  if tag = 0 then some .request else if tag = 1 then some .stream else none

@[simp]
theorem ofTag?_tag (kind : EndpointKind) : ofTag? kind.tag = some kind := by
  cases kind <;> rfl

theorem ofTag?_eq_some_iff {tag : UInt8} {kind : EndpointKind} :
    ofTag? tag = some kind ↔ tag = kind.tag := by
  constructor
  · intro known
    unfold ofTag? at known
    split at known
    · next isZero =>
      cases known
      exact isZero
    · split at known
      · next isOne =>
        cases known
        exact isOne
      · cases known
  · rintro rfl
    exact ofTag?_tag kind

end EndpointKind

/-- What precedes a body. -/
structure Header where
  tag : UInt8
  /-- Who sends the message; nobody checks it. -/
  userId : Int64
  /-- How long the sender is willing to wait; zero if it does not say. -/
  timeout : Duration
  /-- The number of bytes of body that follow. Without meaning for a stream endpoint. -/
  bodySize : UInt64
  contentType : String
  endpoint : String
  deriving DecidableEq, Repr

namespace Header

def empty : Header := ⟨0, 0, .zero, 0, "", ""⟩

instance : Inhabited Header := ⟨empty⟩

/-- The header of a request with a body of the given size. -/
def forRequest (endpoint : String) (bodySize : UInt64) : Header :=
  ⟨EndpointKind.request.tag, 0, .zero, bodySize, "", endpoint⟩

def forStream (endpoint : String) : Header :=
  ⟨EndpointKind.stream.tag, 0, .zero, 0, "", endpoint⟩

/-- The kind of endpoint that the header asks for, if its tag stands for one. -/
def kind (header : Header) : Option EndpointKind :=
  EndpointKind.ofTag? header.tag

def outline (header : Header) : Outline :=
  .record "Metadata"
    [("endpoint_type", .number header.tag.toNat),
      ("user_id", .leaf (toString header.userId.toInt)),
      ("timeout", .leaf header.timeout.text),
      ("body_size", .number header.bodySize.toNat),
      ("content_type", .text header.contentType),
      ("endpoint", .text header.endpoint)]
    false

end Header

end Switchboard
