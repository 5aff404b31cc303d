import Switchboard.Session

/-!
# Exchanges

What a session owes its peer can be said without a transport. The peer sends some bytes and then
ends its stream. Headers and bodies are cut from the front of the bytes, handlers answer, and their
answers are put one behind the other, until there is a reason to stop.

`Exchange.of` says it in this way. There are no chunks in it, no interruptions, no deadlines and no
events: a session that meets none of these in an unusual way does exactly this.
-/

namespace Switchboard

/-- Why an exchange stops. -/
inductive Exchange.Ending
  | over
  | halted (halt : Session.Halt)
  | handedOver (handler : StreamHandler) (header : Header)

/-- What becomes of the bytes that a peer sends. -/
structure Exchange where
  invocations : List Invocation
  written : Bytes
  /-- The bytes that nobody has looked at. -/
  unread : Bytes
  ending : Exchange.Ending

namespace Exchange

/-- An exchange that stops with an error before anything else happens. -/
def failing (error : Error) (unread : Bytes) : Exchange :=
  ⟨[], [], unread, .halted (.failure error)⟩

/-- An exchange before which a handler was invoked and something was written. -/
def after (invocation : Invocation) (written : Bytes) (exchange : Exchange) : Exchange :=
  { exchange with
    invocations := invocation :: exchange.invocations
    written := written ++ exchange.written }

/-- What stands against reading the body of a request that is followed by some bytes. -/
def bodyError? (limit : Option UInt64) (size : UInt64) (rest : Bytes) : Option Exchange :=
  match limit.filter (· < size) with
  | some limit => some (failing (.bodyTooLarge size limit) rest)
  | none =>
      if rest.length < size.toNat then
        some (failing (.truncatedBody size (UInt64.ofNat rest.length)) [])
      else none

/-- What becomes of bytes that end where the peer has ended its stream. -/
def of (registry : Registry) (limit : Option UInt64) (bytes : Bytes) : Exchange :=
  if bytes.length < Header.width then ⟨[], [], [], .over⟩
  else
    let header := Header.ofBytes bytes
    let rest := bytes.drop Header.width
    match header.kind with
    | none => failing (.invalidEndpointType header.tag) rest
    | some .stream =>
        match registry.stream? header.endpoint with
        | none => failing (.invalidEndpoint header.endpoint) rest
        | some handler =>
            ⟨[.stream handler.title header], [], rest, .handedOver handler header⟩
    | some .request =>
        match registry.request? header.endpoint with
        | none => failing (.invalidEndpoint header.endpoint) rest
        | some handler =>
            match bodyError? limit header.bodySize rest with
            | some exchange => exchange
            | none =>
                let body := rest.take header.bodySize.toNat
                let later := rest.drop header.bodySize.toNat
                let answer := handler.answer header body
                let invocation := Invocation.request handler.title header body answer
                match answer.trouble with
                | some trouble => ⟨[invocation], [], later, .halted (.ofTrouble trouble)⟩
                | none =>
                    (of registry limit later).after invocation
                      (Connection.frame header.endpoint answer.output)
termination_by bytes.length
decreasing_by
  have width : 0 < Header.width := by decide
  simp only [List.length_drop]
  omega

end Exchange

end Switchboard
