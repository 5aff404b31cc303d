import Switchboard.Fault
import Switchboard.Text.Quoted

/-!
# Errors

Everything that can go wrong with a message, a connection or a server, by cause. Two questions are
asked of an error: does it only say that the peer went away (`isDisconnect`), and does it say that a
deadline passed (`isTimeout`).
-/

namespace Switchboard

/-- Why an operation failed. -/
inductive Error
  | invalidProtocol (name : String)
  | connectionClosed
  | incompleteHeader (expected actual : Nat)
  | disconnected
  | truncatedBody (expected received : UInt64)
  | bodyTooLarge (size limit : UInt64)
  | invalidEndpoint (name : String)
  /-- The header asks for a kind of endpoint that does not exist. -/
  | invalidEndpointType (tag : UInt8)
  | handler (reason : String)
  /-- Too many passing faults in a row while accepting; the last of them. -/
  | retriesExhausted (retries : UInt64) (fault : Fault)
  | tls (reason : String)
  /-- A call to the world below failed. -/
  | io (fault : Fault)
  deriving DecidableEq, Repr, Inhabited

namespace Error

def message : Error → String
  | .invalidProtocol name => "invalid protocol specified: " ++ Quoted.quote name
  | .connectionClosed => "connection already closed"
  | .incompleteHeader expected actual =>
      "incomplete header: expected " ++ toString expected ++ " bytes, got " ++ toString actual
  | .disconnected => "peer disconnected"
  | .truncatedBody expected received =>
      "truncated body: expected " ++ toString expected.toNat ++ " bytes, received " ++
        toString received.toNat
  | .bodyTooLarge size limit =>
      "body of " ++ toString size.toNat ++ " bytes exceeds limit of " ++ toString limit.toNat ++
        " bytes"
  | .invalidEndpoint name => "invalid endpoint specified: " ++ Quoted.quote name
  | .invalidEndpointType tag => "invalid endpoint type specified: " ++ toString tag.toNat
  | .handler reason => "handler failed: " ++ reason
  | .retriesExhausted retries fault =>
      "accept failed after " ++ toString retries.toNat ++ " retries: " ++ fault.text
  | .tls reason => "tls: " ++ reason
  | .io fault => "I/O error: " ++ fault.text

/-- The peer went away, in one of the ways in which peers usually do. -/
def isDisconnect : Error → Bool
  | .disconnected => true
  | .io fault => fault.isDisconnect
  | _ => false

/-- A read or write gave up because a deadline passed. -/
def isTimeout : Error → Bool
  | .io fault => fault.isTimeout
  | _ => false

def fault? : Error → Option Fault
  | .retriesExhausted _ fault => some fault
  | .io fault => some fault
  | _ => none

end Error

end Switchboard
