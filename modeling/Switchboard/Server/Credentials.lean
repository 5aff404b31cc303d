import Switchboard.Error
import Switchboard.Server.Files
import Switchboard.Text.Outline

/-!
# Files for secure connections

A server for secure connections needs a certificate, a private key and the certificates of those it
trusts. What is in the files is for others to read; here they only have to be there, and the first
that is not is named.
-/

namespace Switchboard

/-- Where the files for secure connections are. -/
structure Credentials where
  cert : String
  key : String
  ca : String
  deriving DecidableEq, Repr

namespace Credentials

def require (files : Files) (what path : String) : Except Error Unit :=
  if files.isFile path then .ok () else .error (.tls (what ++ " not found at " ++ path))

def validate (credentials : Credentials) (files : Files) : Except Error Unit := do
  require files "certificate" credentials.cert
  require files "private key" credentials.key
  require files "CA bundle" credentials.ca

def outline (credentials : Credentials) : Outline :=
  .record "TlsConfig"
    [("cert", .text credentials.cert), ("key", .text credentials.key), ("ca", .text credentials.ca)]
    false

end Credentials

end Switchboard
