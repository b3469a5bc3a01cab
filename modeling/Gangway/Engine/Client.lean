import Gangway.Engine.Classification
import Gangway.Files.Basic

/-!
# Engine clients

A client speaks to an engine through a unix socket, which is given as a `unix://` address or as an
absolute path. Setting one up sends nothing, but looks whether the socket is there.
-/

namespace Gangway

/-- The unix address that an address stands for. -/
def dialable (address : String) : Except EngineError String :=
  let refuse (reason : String) : Except EngineError String :=
    .error (.unsupportedScheme address reason)
  if (unixPath? address).isSome then .ok address
  else
    match Text.splitOnce Transport.schemeMark address.toList with
    | some (scheme, _) =>
      refuse s!"'{String.ofList scheme}' addresses cannot be dialled directly"
    | none =>
      if Path.isAbsolute address then .ok (unixMark ++ address)
      else refuse "expected a unix:// address or an absolute socket path"

/-- The text without any of a word's repetitions at its front. -/
def dropRepeated (first : Char) (word : List Char) (text : List Char) : List Char :=
  match h : Text.dropLeading (first :: word) text with
  | some rest =>
    have : rest.length < text.length := by
      rw [Text.dropLeading_eq_some_iff.1 h, List.length_append, List.length_cons]
      omega
    dropRepeated first word rest
  | none => text
termination_by text.length

/-- The text after all marks of sockets and then of pipes at its front. -/
def afterMarks (uri : String) : String :=
  String.ofList
    (dropRepeated 'n' "pipe://".toList (dropRepeated 'u' "nix://".toList uri.toList))

/-- A client for the engine behind a socket. -/
structure Client where
  /-- The path of the socket. -/
  socket : String
  deriving DecidableEq, Repr

/-- Sets up a client for an address. The socket has to be there, also when every mark in front of
the path is dropped. -/
def Client.connect (files : Files) (address : String) : Except EngineError Client := do
  let uri ← dialable address
  let path := (unixPath? uri).getD ""
  if files.present (afterMarks uri) && files.present path then return { socket := path }
  else throw ((ClientError.socketMissing path).whenConnecting uri)

end Gangway
