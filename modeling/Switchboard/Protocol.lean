import Switchboard.Error

/-!
# Protocols

The two families of sockets over which connections run, and their names.
-/

namespace Switchboard

/-- A family of sockets. -/
inductive Protocol
  | tcp
  | unix
  deriving DecidableEq, Repr, Inhabited

namespace Protocol

def name : Protocol → String
  | .tcp => "tcp"
  | .unix => "unix"

def label : Protocol → String
  | .tcp => "Tcp"
  | .unix => "Unix"

/-- The protocol of a name. Names are compared exactly. -/
def ofName (name : String) : Except Error Protocol :=
  if name = "tcp" then .ok .tcp
  else if name = "unix" then .ok .unix
  else .error (.invalidProtocol name)

@[simp]
theorem ofName_name (protocol : Protocol) : ofName protocol.name = .ok protocol := by
  cases protocol <;> rfl

end Protocol

end Switchboard
