import Switchboard.Protocol
import Switchboard.Server.Files
import Switchboard.Text.Utf8

/-!
# Addresses

An address over the network is a host and a port with a colon between them. On one machine it is a
path, which must be short enough for the system and hold no zero byte.

Whether an address can be dialled or listened at depends on the world around. Here it is a world
with a known file system and without a network: nobody can be reached in it, but a socket for the
network can be opened.
-/

namespace Switchboard.Address

def refused (text : String) : Fault := .described .invalidInput text

/-- The port that digits stand for. One plus may precede them. -/
def port? (text : String) : Option Nat :=
  let digits := match text.toList with
    | '+' :: digits => digits
    | digits => digits
  if digits ≠ [] ∧ digits.all Char.isDigit then
    let value := digits.foldl (fun value digit => 10 * value + (digit.toNat - 48)) 0
    if value < 65536 then some value else none
  else none

/-- The parts before and after the last colon. -/
def splitLast (text : String) : Option (String × String) :=
  match (text.splitOn ":").reverse with
  | last :: first :: more => some (":".intercalate (first :: more).reverse, last)
  | _ => none

/-- The host and the port of an address over the network. -/
def parse (address : String) : Except Fault (String × Nat) :=
  match splitLast address with
  | none => .error (refused "invalid socket address")
  | some (host, port) =>
      match port? port with
      | none => .error (refused "invalid port value")
      | some port => .ok (host, port)

/-- The number of bytes in which a path must fit, with a zero byte after it. -/
def pathRoom : Nat := 108

/-- Refuses a path that cannot be the address of a socket. -/
def checkPath (path : String) : Except Fault Unit :=
  let bytes := Utf8.encode path
  if bytes.contains 0 then .error (refused "paths must not contain interior null bytes")
  else if pathRoom ≤ bytes.length then .error (refused "path must be shorter than SUN_LEN")
  else .ok ()

/-- What dialling a path meets where nobody listens. -/
def dialPath (files : Files) (path : String) : Fault :=
  match checkPath path with
  | .error fault => fault
  | .ok () =>
      if path = "" then .system 22
      else
        match files.find path with
        | .directory => .system 111
        | .file => .system 111
        | .vacant => .system 2
        | .missing => .system 2

/-- Why an address where nobody listens cannot be dialled. -/
def dial (files : Files) (protocol : Protocol) (address : String) : Fault :=
  match protocol with
  | .tcp =>
      match parse address with
      | .error fault => fault
      | .ok _ => .system 101
  | .unix => dialPath files address

/-- The port that is given to a socket that asks for any. -/
def freePort : Nat := 49152

/-- A socket that was opened. -/
structure Bound where
  address : String
  /-- The path of the file that stands for it, if there is one. -/
  path : Option String
  deriving DecidableEq, Repr

/-- Opens a socket at a path. A path that is empty stands for no place at all. -/
def bindPath (files : Files) (path : String) : Except Fault Bound := do
  checkPath path
  if path = "" then .ok ⟨path, none⟩
  else
    match files.find path with
    | .vacant => .ok ⟨path, some path⟩
    | .missing => .error (.system 2)
    | .file => .error (.system 98)
    | .directory => .error (.system 98)

/-- Opens a socket for the network. A port of its own choice is always free; any other must not be
in use. -/
def bindPort (held : List String) (host : String) (port : Nat) : Except Fault Bound :=
  if port = 0 then .ok ⟨host ++ ":" ++ toString freePort, none⟩
  else
    let address := host ++ ":" ++ toString port
    if held.contains address then .error (.system 98) else .ok ⟨address, none⟩

/-- Opens a socket at an address while some addresses are held by others. -/
def bind (files : Files) (held : List String) (protocol : Protocol) (address : String) :
    Except Error Bound :=
  Except.mapError Error.io
    (match protocol with
      | .tcp => do
          let (host, port) ← parse address
          bindPort held host port
      | .unix => bindPath files address)

def connect (files : Files) (protocol address : String) : Except Error Empty := do
  let protocol ← Protocol.ofName protocol
  .error (.io (dial files protocol address))

/-- The files while a socket is open. -/
def Bound.occupy (bound : Bound) (files : Files) : Files :=
  match bound.path with
  | none => files
  | some path => files.addFile path

/-- The files after a socket was closed: the file that stood for it is gone. -/
def Bound.vacate (bound : Bound) (files : Files) : Files :=
  match bound.path with
  | none => files
  | some path => files.removeFile path

/-- A path leads to something. -/
def present (files : Files) (path : String) : Bool :=
  match files.find path with
  | .directory => true
  | .file => true
  | _ => false

end Switchboard.Address
