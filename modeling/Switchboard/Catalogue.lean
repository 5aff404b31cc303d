import Switchboard.Connection.Framing
import Switchboard.Registry

/-!
# Stock handlers

Some handlers are used again and again: to try a server out, to test a peer, to be in the way. Each
has a name, and some take an argument, which stands behind a colon. Asking for a title that is not
in the catalogue gives a handler that does nothing.

A stock handler fails with the text of whatever went wrong.
-/

namespace Switchboard.Catalogue

variable {α : Type}

/-- The two sides of the first colon. Without a colon there is no argument. -/
def split (title : String) : String × String :=
  let characters := title.toList
  (String.ofList (characters.takeWhile (· != ':')),
    String.ofList ((characters.dropWhile (· != ':')).drop 1))

def count (argument : String) : Nat :=
  argument.toNat?.getD 0

def decimal (number : Nat) : Bytes :=
  Utf8.encode (toString number)

/-- One byte, with a small letter of the Latin alphabet made a capital one. -/
def upperByte (byte : UInt8) : UInt8 :=
  if 97 ≤ byte.toNat ∧ byte.toNat ≤ 122 then byte - 32 else byte

/-- A header on one line: its fields with bars between them. -/
def headerLine (header : Header) : Bytes :=
  Utf8.encode ("|".intercalate
    [toString header.tag.toNat, toString header.userId.toInt, toString header.timeout.millis,
      toString header.bodySize.toNat, header.contentType, header.endpoint])

/-! ## Requests -/

def put (bytes : Bytes) : EStateM Trouble Bytes Unit :=
  modify (· ++ bytes)

def answering (name argument : String) (header : Header) (body : Bytes) :
    EStateM Trouble Bytes Unit :=
  match name with
  | "echo" => put body
  | "upper" => put (body.map upperByte)
  | "reverse" => put body.reverse
  | "length" => put (decimal body.length)
  | "repeat" => put (List.replicate (count argument) body).flatten
  | "head" =>
      if body.length < count argument then throw (.failed Fault.unfilled.text)
      else put (body.take (count argument))
  | "const" => put (Utf8.encode argument)
  | "meta" => put (headerLine header)
  | "fail" => throw (.failed argument)
  | "partial" => do
      put (Utf8.encode "partial")
      throw (.failed argument)
  | "panic" => throw (.crashed argument)
  | _ => pure ()

def request (title : String) : RequestHandler where
  title := title
  run := answering (split title).1 (split title).2

/-! ## Streams -/

/-- An operation on messages that fails with the text of its error. -/
def messages (action : EStateM Error Connection α) : EStateM Trouble Connection α :=
  EStateM.adaptExcept (fun error => .failed error.message) action

/-- A raw operation that fails with the text of its fault. -/
def raw (action : EStateM Fault Connection α) : EStateM Trouble Connection α :=
  EStateM.adaptExcept (fun fault => .failed fault.text) action

/-- Writes the numbers from `next` on, each as a message. -/
def countUp (endpoint : String) (next : Nat) : Nat → EStateM Trouble Connection Unit
  | 0 => pure ()
  | left + 1 => do
      let _ ← messages (Connection.writeFramed endpoint (decimal next))
      countUp endpoint (next + 1) left

/-- Answers every message with its own text until the peer goes away. -/
def relay (connection : Connection) : EStateM.Result Trouble Connection Unit :=
  match _ : Connection.readFramedText connection with
  | .error error after =>
      if error.isDisconnect then .ok () after else .error (.failed error.message) after
  | .ok (header, text) after =>
      match _ : Connection.writeFramedText header.endpoint text after with
      | .error error after =>
          if error.isDisconnect then .ok () after else .error (.failed error.message) after
      | .ok _ after => relay after
termination_by connection.budget
decreasing_by
  have spent := Connection.budget_of_readFramedText_ok
    ‹Connection.readFramedText connection = .ok (header, text) _›
  have kept := Connection.budget_of_writeFramedText_ok
    ‹Connection.writeFramedText header.endpoint text _ = .ok _ _›
  have width : 0 < Header.width := by decide
  omega

/-- Reads to the end and keeps the number of bytes, unless a fault comes up. -/
def countToEnd : EStateM Trouble Connection Nat := fun connection =>
  let drained := connection.readToEnd
  match drained.fault with
  | none => .ok drained.data.length drained.state
  | some fault => .error (.failed fault.text) drained.state

/-- Writes everything that a source has as one message. -/
def gather (endpoint : String) (source : Source) : EStateM Trouble Connection Nat :=
  fun connection =>
    match Connection.writeFramedFrom endpoint (connection, source) with
    | .ok count (connection, _) => .ok count connection
    | .error error (connection, _) => .error (.failed error.message) connection

def serving (name argument : String) (header : Header) : EStateM Trouble Connection Unit :=
  match name with
  | "shout" => do
      let bytes ← raw (Connection.readExact (count argument))
      raw (Connection.writeAll (bytes.map upperByte))
      raw (Connection.writeAll (Utf8.encode header.contentType))
      messages Connection.close
  | "count" => do
      countUp header.endpoint 0 header.userId.toInt.toNat
      messages Connection.close
  | "relay" => relay
  | "gather" => do
      let written ← gather header.endpoint (.ofBytes (Utf8.encode argument))
      raw (Connection.writeAll (decimal written))
  | "drain" => do
      messages Connection.clearDeadline
      let received ← countToEnd
      raw (Connection.writeAll (decimal received))
      raw Connection.flush
  | "meta" => do
      let _ ← messages (Connection.writeHeader header)
      raw (Connection.writeAll (headerLine header))
  | "late" => do
      messages Connection.close
      let _ ← messages (Connection.writeFramed header.endpoint (Utf8.encode "late"))
      pure ()
  | "fail" => throw (.failed argument)
  | "panic" => throw (.crashed argument)
  | _ => pure ()

def stream (title : String) : StreamHandler where
  title := title
  run := serving (split title).1 (split title).2

end Switchboard.Catalogue
