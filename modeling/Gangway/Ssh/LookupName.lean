import Gangway.Text.Case

/-!
# Lookup names

A host is filed in a trust store under its name alone when it listens on the standard port, and as
`[name]:port` otherwise, with ASCII capitals made small.
-/

namespace Gangway.Ssh

/-- The port of an SSH server when none is given. -/
def defaultPort : UInt16 := 22

/-- The name under which a host and port are filed. -/
def lookupName (hostname : String) (port : UInt16) : String :=
  if port = defaultPort then Text.lowerString hostname
  else "[" ++ Text.lowerString hostname ++ "]:" ++ toString port.toNat

end Gangway.Ssh
