import Gangway.Ssh.Params
import Gangway.Ssh.TrustStore

/-!
# Host-key policies

How the key that a bastion presents is judged: any key is accepted, or only those that the trust
store holds for the host. A secure destination without a trusted key is refused under strict
checking.
-/

namespace Gangway.Ssh

/-- How a presented host key is judged. -/
inductive HostKeyPolicy where
  | acceptAny
  /-- Only keys with the material of one of these are accepted. -/
  | pinned (keys : List PublicKey)
  deriving DecidableEq, Repr

namespace HostKeyPolicy

/-- The store consulted for a connection; without a path it is empty. -/
def storeOf (files : Files) : Option String → Except SshError TrustStore
  | some path => TrustStore.load files path
  | none => .ok {}

/-- The policy for a connection. -/
def forConnection (files : Files) (params : Params) (knownHosts : Option String) (strict : Bool) :
    Except SshError HostKeyPolicy :=
  if !params.secure then .ok .acceptAny
  else
    match storeOf files knownHosts with
    | .error error => .error error
    | .ok store =>
      match store.keysFor params.hostname params.port with
      | [] => if strict then .error (.hostKeyUnknown params.host) else .ok .acceptAny
      | keys => .ok (.pinned keys)

/-- Whether the policy accepts a presented key. -/
def accepts : HostKeyPolicy → PublicKey → Bool
  | .acceptAny, _ => true
  | .pinned keys, presented => keys.contains presented

end HostKeyPolicy

end Gangway.Ssh
