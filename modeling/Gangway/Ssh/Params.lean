import Gangway.Engine.Transport
import Gangway.Error
import Gangway.Text.Quoted
import Gangway.Uri.Basic
import Gangway.Uri.Query
import Gangway.Ssh.LookupName

/-!
# Connection parameters

What is needed to dial a bastion and to reach the engine socket behind it, derived from the `ssh://`
URI of a destination. Host-key checking is on unless the first `secure` field of the query spells
false. The diagnostic text of the parameters shows no secret.
-/

namespace Gangway.Ssh

/-- What is needed to dial a bastion and reach the engine socket behind it. -/
structure Params where
  /-- The bastion as `host:port`, with IPv6 addresses in brackets. -/
  host : String
  /-- The bastion's name without port or brackets. -/
  hostname : String
  port : UInt16
  /-- The path of the engine socket on the bastion. -/
  path : String
  /-- The user to authenticate as. -/
  user : String
  /-- The private key that is offered. -/
  keyPath : String
  keyPassphrase : Option String
  /-- Whether the bastion's host key is checked against the trust store. -/
  secure : Bool
  /-- The password offered after the key; empty means none. -/
  password : String
  deriving DecidableEq, Repr

/-- The truth value of a flag in the spellings that queries use. -/
def flag? (value : List Char) : Option Bool :=
  if ["1", "t", "T", "true", "True", "TRUE"].contains (String.ofList value) then some true
  else if ["0", "f", "F", "false", "False", "FALSE"].contains (String.ofList value) then some false
  else none

/-- Whether a query leaves host-key checking on. -/
def isSecure (query : Option (List Char)) : Bool :=
  match (Uri.formPairs (query.getD [])).find? fun pair => pair.1 == "secure".toList with
  | some (_, value) => (flag? value).getD true
  | none => true

/-- A host as its name alone and as it is written in front of a port. -/
def hostTexts : Uri.Host → String × String
  | .name text => (text, text)
  | .address ipv6 => (ipv6.text, "[" ++ ipv6.text ++ "]")

namespace Params

/-- The parameters of a destination. Without a port it is 22, and without a user the local account's
name. -/
def ofUri (localUser uri keyPath : String) (keyPassphrase : Option String) :
    Except SshError Params :=
  let refuse (message : String) : Except SshError Params := .error (.uriParse uri message)
  match Uri.parse uri with
  | .error fault => refuse fault.message
  | .ok parsed =>
    if parsed.scheme ≠ Transport.ssh.scheme then
      refuse s!"expected scheme '{Transport.ssh.scheme}', found '{parsed.scheme}'"
    else
      match parsed.host with
      | none => refuse "missing host"
      | some host =>
        let port := parsed.port.getD defaultPort
        let (hostname, shown) := hostTexts host
        .ok {
          host := s!"{shown}:{port.toNat}"
          hostname
          port
          path := parsed.path
          user := if parsed.username.isEmpty then localUser else parsed.username
          keyPath
          keyPassphrase
          secure := isSecure parsed.query
          password := ""
        }

/-- The text of the parameters for diagnostics: secrets are shown as present or absent. -/
def debug (params : Params) : String :=
  Text.record "SshConnectionParams"
    [("host", Text.quoted params.host),
      ("path", Text.quoted params.path),
      ("user", Text.quoted params.user),
      ("key_path", Text.quoted params.keyPath),
      ("key_passphrase", Text.redacted params.keyPassphrase.isSome),
      ("secure", if params.secure then "true" else "false"),
      ("password", Text.redacted !params.password.isEmpty)] false

end Params

end Gangway.Ssh
