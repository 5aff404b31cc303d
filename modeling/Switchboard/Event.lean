import Switchboard.Error
import Switchboard.Protocol

/-!
# Events

What a server tells about itself while it works: how its connections fare, and what happens to the
socket on which it listens. An event has a level, a message and some named values, all of which
follow from what it is.
-/

namespace Switchboard

/-- How much attention an event deserves. -/
inductive Level
  | debug
  | info
  | warn
  deriving DecidableEq, Repr

def Level.name : Level → String
  | .debug => "DEBUG"
  | .info => "INFO"
  | .warn => "WARN"

/-- Something that is told. -/
inductive Event
  | connected (peer : String)
  | served (endpoint : String) (requestBytes responseBytes : Nat)
  | handedOver (endpoint : String)
  | failed (peer : String) (error : Error)
  | disconnected (peer : String)
  | unready (connection : Nat) (fault : Fault)
  /-- A handler broke off, and its connection with it. -/
  | crashed (connection : Nat)
  | listening (protocol : Protocol) (address : String)
  | acceptFailed (fault : Fault)
  | backingOff (attempt : UInt64) (delayMillis : Nat)
  /-- The server accepts no more and waits for its connections. -/
  | draining (active : Nat)
  | drained
  | stopped (error : Error)
  deriving DecidableEq, Repr

namespace Event

/-- The level of an event. A connection that was idle for too long is nothing to worry about. -/
def level : Event → Level
  | .connected _ => .info
  | .served .. => .debug
  | .handedOver _ => .debug
  | .failed _ error => if error.isTimeout then .info else .warn
  | .disconnected _ => .info
  | .unready .. => .warn
  | .crashed _ => .warn
  | .listening .. => .info
  | .acceptFailed _ => .warn
  | .backingOff .. => .debug
  | .draining _ => .info
  | .drained => .info
  | .stopped _ => .warn

/-- The message about an error that ended a connection. -/
def failureMessage (error : Error) : String :=
  if error.isTimeout then "Idle timeout expired"
  else
    match error with
    | .invalidEndpoint _ => "Could not find requested endpoint"
    | .invalidEndpointType _ => "Invalid endpoint type specified"
    | .handler _ => "Error serving endpoint"
    | .truncatedBody .. => "Unable to read body"
    | .bodyTooLarge .. => "Unable to read body"
    | _ => "Connection error"

/-- The values that belong to an error that ended a connection, beside the peer. -/
def failureFields (error : Error) : List (String × String) :=
  if error.isTimeout then []
  else
    match error with
    | .invalidEndpoint name => [("endpoint", name)]
    | .invalidEndpointType tag => [("endpoint_type", toString tag.toNat)]
    | .handler reason => [("error", reason)]
    | error => [("error", error.message)]

def message : Event → String
  | .connected _ => "Client connected"
  | .served .. => "Served request"
  | .handedOver _ => "Handing connection to stream endpoint"
  | .failed _ error => failureMessage error
  | .disconnected _ => "Client disconnected"
  | .unready .. => "Failed to set up connection"
  | .crashed _ => "Connection handler panicked"
  | .listening protocol address =>
      "Listening for requests on " ++ protocol.name ++ "://" ++ address
  | .acceptFailed _ => "Transient accept error"
  | .backingOff .. => "Backing off before next accept"
  | .draining _ => "Shutting down, draining connections"
  | .drained => "Shutdown complete"
  | .stopped _ => "Listener stopped"

def fields : Event → List (String × String)
  | .connected peer => [("peer", peer)]
  | .served endpoint requestBytes responseBytes =>
      [("endpoint", endpoint), ("request_bytes", toString requestBytes),
        ("response_bytes", toString responseBytes)]
  | .handedOver endpoint => [("endpoint", endpoint)]
  | .failed peer error => ("peer", peer) :: failureFields error
  | .disconnected peer => [("peer", peer)]
  | .unready connection fault => [("conn", toString connection), ("error", fault.text)]
  | .crashed connection => [("conn", toString connection)]
  | .listening .. => []
  | .acceptFailed fault => [("error", fault.text)]
  | .backingOff attempt delayMillis =>
      [("attempt", toString attempt.toNat), ("delay_ms", toString delayMillis)]
  | .draining active => [("active", toString active)]
  | .drained => []
  | .stopped error => [("error", error.message)]

end Event

end Switchboard
