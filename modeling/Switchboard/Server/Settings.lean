import Switchboard.Protocol
import Switchboard.Session

/-!
# Settings of a server

Where a server listens, what it tolerates and what it tells. `Settings.standard` is what holds where
nothing else was said; everything else is changed one setting at a time.
-/

namespace Switchboard

/-- The settings of a server. -/
structure Settings where
  protocol : Protocol
  address : String
  /-- How many passing faults in a row are tolerated while accepting. -/
  maxRetries : UInt64
  /-- How long a peer may be idle; for ever if nothing is said. -/
  maxTimeout : Option Duration
  log : Bool
  acceptTimeout : Duration
  /-- The longest body of a request; any if nothing is said. -/
  maxBodySize : Option UInt64
  nodelay : Bool
  socketBufferSize : Option UInt64
  deriving DecidableEq, Repr

namespace Settings

/-- What holds where nothing else was said. -/
def standard : Settings where
  protocol := .tcp
  address := "127.0.0.1:0"
  maxRetries := 10
  maxTimeout := none
  log := false
  acceptTimeout := .ofMillis 1000
  maxBodySize := none
  nodelay := true
  socketBufferSize := none

instance : Inhabited Settings := ⟨standard⟩

def listeningAt (protocol : Protocol) (address : String) : Settings :=
  { standard with protocol, address }

/-- The standard settings for an address and a protocol that is given by its name. -/
def ofName (protocol address : String) : Except Error Settings :=
  (Protocol.ofName protocol).map (listeningAt · address)

/-- A change of one setting. -/
inductive Change
  | maxRetries (count : UInt64)
  | maxTimeout (limit : Duration)
  | log (told : Bool)
  | acceptTimeout (limit : Duration)
  | maxBodySize (limit : UInt64)
  | nodelay (atOnce : Bool)
  | socketBufferSize (size : UInt64)
  deriving DecidableEq, Repr

def change (settings : Settings) : Change → Settings
  | .maxRetries count => { settings with maxRetries := count }
  | .maxTimeout limit => { settings with maxTimeout := some limit }
  | .log told => { settings with log := told }
  | .acceptTimeout limit => { settings with acceptTimeout := limit }
  | .maxBodySize limit => { settings with maxBodySize := some limit }
  | .nodelay atOnce => { settings with nodelay := atOnce }
  | .socketBufferSize size => { settings with socketBufferSize := some size }

/-- The rules by which connections are served under the settings. -/
def rules (settings : Settings) (registry : Registry) : Rules where
  registry := registry
  idleLimit := settings.maxTimeout
  bodyLimit := settings.maxBodySize
  log := settings.log

def outline (settings : Settings) : Outline :=
  .record "ServerConfig"
    [("protocol", .leaf settings.protocol.label),
      ("addr", .text settings.address),
      ("max_retries", .number settings.maxRetries.toNat),
      ("max_timeout", .optional (fun limit => .leaf limit.text) settings.maxTimeout),
      ("log", .flag settings.log),
      ("accept_timeout", .leaf settings.acceptTimeout.text),
      ("max_body_size", .optional (fun limit => .number limit.toNat) settings.maxBodySize),
      ("nodelay", .flag settings.nodelay),
      ("socket_buffer_size", .optional (fun size => .number size.toNat) settings.socketBufferSize)]
    false

/-- What a person is shown of a server with the settings. -/
def serverOutline (settings : Settings) (registry : Registry) (active : Nat) : Outline :=
  .record "Server"
    [("config", settings.outline),
      ("registry", registry.outline),
      ("active_connections", .number active)]
    true

end Settings

end Switchboard
