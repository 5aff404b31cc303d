/-!
# Faults

A fault is what the world below reports when a read, a write or another call fails. It has a kind,
on which programs decide, and a text for people. A fault may be nothing but its kind, carry a text
of its own, or be a code of the operating system, which fixes both.
-/

namespace Switchboard

/-- The kinds of faults. -/
inductive Fault.Kind
  | notFound
  | permissionDenied
  | connectionRefused
  | connectionReset
  | connectionAborted
  | notConnected
  | addrInUse
  /-- The address does not belong to this host. -/
  | addrNotAvailable
  | brokenPipe
  | alreadyExists
  | wouldBlock
  | invalidInput
  | invalidData
  | timedOut
  | writeZero
  | interrupted
  /-- The operation does not exist here. -/
  | unsupported
  | unexpectedEof
  | outOfMemory
  | other
  | hostUnreachable
  | networkUnreachable
  | networkDown
  | storageFull
  | resourceBusy
  /-- Waiting would never end. -/
  | deadlock
  | inputOutputError
  | tooManyOpenFiles
  | inProgress
  | uncategorized
  deriving DecidableEq, Repr, Inhabited

namespace Fault.Kind

/-- The text of a fault that is nothing but its kind. -/
def text : Kind → String
  | .notFound => "entity not found"
  | .permissionDenied => "permission denied"
  | .connectionRefused => "connection refused"
  | .connectionReset => "connection reset"
  | .connectionAborted => "connection aborted"
  | .notConnected => "not connected"
  | .addrInUse => "address in use"
  | .addrNotAvailable => "address not available"
  | .brokenPipe => "broken pipe"
  | .alreadyExists => "entity already exists"
  | .wouldBlock => "operation would block"
  | .invalidInput => "invalid input parameter"
  | .invalidData => "invalid data"
  | .timedOut => "timed out"
  | .writeZero => "write zero"
  | .interrupted => "operation interrupted"
  | .unsupported => "unsupported"
  | .unexpectedEof => "unexpected end of file"
  | .outOfMemory => "out of memory"
  | .other => "other error"
  | .hostUnreachable => "host unreachable"
  | .networkUnreachable => "network unreachable"
  | .networkDown => "network down"
  | .storageFull => "no storage space"
  | .resourceBusy => "resource busy"
  | .deadlock => "deadlock"
  | .inputOutputError => "input/output error"
  | .tooManyOpenFiles => "too many open files"
  | .inProgress => "in progress"
  | .uncategorized => "uncategorized error"

end Fault.Kind

/-- What a failed call reports. -/
inductive Fault
  /-- A fault that is nothing but its kind. -/
  | plain (kind : Fault.Kind)
  /-- A fault with a text of its own. -/
  | described (kind : Fault.Kind) (text : String)
  /-- A code of the operating system. -/
  | system (code : Nat)
  deriving DecidableEq, Repr, Inhabited

namespace Fault

/-- What the operating system means by a code. -/
structure SystemCode where
  code : Nat
  kind : Kind
  words : String

def systemCodes : List SystemCode :=
  [⟨1, .permissionDenied, "Operation not permitted"⟩,
   ⟨2, .notFound, "No such file or directory"⟩,
   ⟨4, .interrupted, "Interrupted system call"⟩,
   ⟨5, .inputOutputError, "Input/output error"⟩,
   ⟨9, .uncategorized, "Bad file descriptor"⟩,
   ⟨11, .wouldBlock, "Resource temporarily unavailable"⟩,
   ⟨12, .outOfMemory, "Cannot allocate memory"⟩,
   ⟨13, .permissionDenied, "Permission denied"⟩,
   ⟨16, .resourceBusy, "Device or resource busy"⟩,
   ⟨17, .alreadyExists, "File exists"⟩,
   ⟨22, .invalidInput, "Invalid argument"⟩,
   ⟨23, .tooManyOpenFiles, "Too many open files in system"⟩,
   ⟨24, .tooManyOpenFiles, "Too many open files"⟩,
   ⟨28, .storageFull, "No space left on device"⟩,
   ⟨32, .brokenPipe, "Broken pipe"⟩,
   ⟨71, .uncategorized, "Protocol error"⟩,
   ⟨88, .uncategorized, "Socket operation on non-socket"⟩,
   ⟨95, .unsupported, "Operation not supported"⟩,
   ⟨98, .addrInUse, "Address already in use"⟩,
   ⟨99, .addrNotAvailable, "Cannot assign requested address"⟩,
   ⟨100, .networkDown, "Network is down"⟩,
   ⟨101, .networkUnreachable, "Network is unreachable"⟩,
   ⟨102, .uncategorized, "Network dropped connection on reset"⟩,
   ⟨103, .connectionAborted, "Software caused connection abort"⟩,
   ⟨104, .connectionReset, "Connection reset by peer"⟩,
   ⟨105, .uncategorized, "No buffer space available"⟩,
   ⟨107, .notConnected, "Transport endpoint is not connected"⟩,
   ⟨108, .uncategorized, "Cannot send after transport endpoint shutdown"⟩,
   ⟨110, .timedOut, "Connection timed out"⟩,
   ⟨111, .connectionRefused, "Connection refused"⟩,
   ⟨112, .uncategorized, "Host is down"⟩,
   ⟨113, .hostUnreachable, "No route to host"⟩,
   ⟨114, .uncategorized, "Operation already in progress"⟩,
   ⟨115, .inProgress, "Operation now in progress"⟩]

/-- The entry of a code, if it has a meaning here. -/
def systemCode? (code : Nat) : Option SystemCode :=
  systemCodes.find? (·.code == code)

def kind : Fault → Kind
  | .plain kind => kind
  | .described kind _ => kind
  | .system code => ((systemCode? code).map (·.kind)).getD .uncategorized

/-- The text of a fault. A code of the system is named after its words. -/
def text : Fault → String
  | .plain kind => kind.text
  | .described _ text => text
  | .system code =>
      ((systemCode? code).map (·.words)).getD ("Unknown error " ++ toString code) ++
        " (os error " ++ toString code ++ ")"

/-- The call was interrupted, and whoever wants all of it makes it again. -/
def isInterrupted (fault : Fault) : Bool :=
  fault.kind == .interrupted

def isTimeout (fault : Fault) : Bool :=
  fault.kind == .wouldBlock || fault.kind == .timedOut

def isDisconnect (fault : Fault) : Bool :=
  fault.kind == .connectionReset || fault.kind == .connectionAborted || fault.kind == .brokenPipe

def unfilled : Fault := .described .unexpectedEof "failed to fill whole buffer"

/-- A write took nothing although there was something to take. -/
def unwritten : Fault := .described .writeZero "failed to write whole buffer"

def pastDeadline : Fault := .described .timedOut "deadline exceeded"

def closed : Fault := .described .notConnected "connection already closed"

end Fault

end Switchboard
