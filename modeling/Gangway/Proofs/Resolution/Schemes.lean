import Gangway.Proofs.Resolution.SshScan
import Gangway.Proofs.Resolution.UnixChain
import Gangway.Proofs.Text.Cutting
import Gangway.Proofs.Uri.Reading
import Gangway.Ssh.Params

/-!
# The schemes of what is resolved

A document's URI is taken for a transport by the text in front of its first `://`, so that it begins
with the mark of that transport, and what the mode makes of a unix URI begins with it too. Whatever
is resolved from anything but the variable therefore carries its scheme.
-/

namespace Gangway

open Ssh (Params)

/-- A URI that a transport carries begins with the scheme and the mark behind it. -/
theorem Transport.isPrefix_of_carries {transport : Transport} {uri : String}
    (carried : transport.carries uri = true) :
    transport.scheme.toList ++ schemeMark <+: uri.toList := by
  unfold carries at carried
  split at carried
  case h_1 before after cut =>
    rw [← eq_of_beq carried]
    exact ⟨after, (Text.eq_append_of_splitOnce cut).symm⟩
  case h_2 => cases carried

theorem unixPath?_eq_none_iff {address : String} :
    unixPath? address = none ↔ ¬ unixMark.toList <+: address.toList := by
  rw [unixPath?, Option.map_eq_none_iff, Text.dropLeading_eq_none_iff]

/-- Without its authority a unix URI is one still. -/
theorem isPrefix_stripAuthority {uri : String} (marked : unixMark.toList <+: uri.toList) :
    unixMark.toList <+: (stripAuthority uri).toList := by
  unfold stripAuthority
  split
  case h_1 => exact marked
  case h_2 => exact marked
  case h_3 =>
    split
    case h_1 => exact marked
    case h_2 rest path _ =>
      rw [String.toList_ofList]
      exact List.prefix_append _ _

theorem UnixUriMode.isPrefix_apply {mode : UnixUriMode} {uri : String}
    (marked : unixMark.toList <+: uri.toList) : unixMark.toList <+: (mode.apply uri).toList := by
  cases mode with
  | verbatim => exact marked
  | stripAuthority => exact isPrefix_stripAuthority marked

/-- A URI that begins like an ssh URI is refused for the place in it, if at all. -/
theorem Ssh.Params.message_of_ofUri {localUser uri keyPath : String} {passphrase : Option String}
    {error : SshError} (marked : Uri.sshMark.toList <+: uri.toList)
    (refused : Params.ofUri localUser uri keyPath passphrase = .error error) :
    ∃ message ∈ ["empty host", "invalid port number", "invalid IPv6 address",
        "invalid domain character", "missing host"], error = .uriParse uri message := by
  have read := Uri.parse_ssh marked
  unfold Params.ofUri at refused
  dsimp only at refused
  cases parsed : Uri.parse uri with
  | error fault =>
    rw [parsed] at read refused
    cases refused
    -- The first four of the messages are those of the faults of a place.
    have messages : Uri.Fault.ofPlace.map Uri.Fault.message = ["empty host", "invalid port number",
        "invalid IPv6 address", "invalid domain character"] := rfl
    have message : fault.message ∈ Uri.Fault.ofPlace.map Uri.Fault.message :=
      List.mem_map_of_mem read
    rw [messages] at message
    exact ⟨_, List.mem_append_left ["missing host"] message, rfl⟩
  | ok found =>
    rw [parsed] at read refused
    have same : found.scheme = Transport.ssh.scheme := read
    dsimp only at refused
    rw [if_neg (not_not_intro same)] at refused
    split at refused
    · cases refused
      exact ⟨"missing host", by simp, rfl⟩
    · cases refused

namespace Resolver

variable {resolver : Resolver}

/-- What a document offers for a transport is carried by it. -/
theorem Offers.carried {transport : Transport} {path : String} {destination : Destination}
    (offers : resolver.Offers transport path destination) :
    transport.carries destination.uri = true := by
  obtain ⟨config, holds, chosen⟩ := offers
  exact ((EngineConfig.destinationFor_eq_some_iff holds.ordered).1 chosen).carried

/-- Where the variable gives no address, the address that is resolved is a unix address. -/
theorem unixMark_isPrefix {address : String} {source : Source}
    (unset : ∀ value, ¬ resolver.environment.Sets "CONTAINER_HOST" value)
    (resolved : resolver.resolveUnix = .resolved address source) :
    unixMark.toList <+: address.toList := by
  obtain ⟨resolution, chain⟩ := exists_unixChain resolver
  have same := (resolveUnix_of_unixChain chain).symm.trans resolved
  subst same
  cases chain with
  | environment set => exact absurd set (unset address)
  | document _ _ offers _ =>
    exact UnixUriMode.isPrefix_apply (Transport.isPrefix_of_carries offers.carried)
  | runtime _ _ _ _ =>
    rw [String.toList_append]
    exact List.prefix_append _ _
  | standard _ _ _ _ =>
    rw [String.toList_append]
    exact List.prefix_append _ _

/-- The ssh destination that is resolved is complete. -/
theorem isComplete_of_resolveSsh {found : SshDestination}
    (resolved : resolver.resolveSsh = .ok found) :
    Uri.sshMark.toList <+: found.uri.toList ∧ found.identity ≠ "" := by
  unfold resolveSsh at resolved
  split at resolved
  case h_1 destination hit =>
    cases resolved
    obtain ⟨path, -, given⟩ := List.exists_of_findSome?_eq_some hit
    obtain ⟨named, offers, identity, rfl⟩ := sshIn?_eq_some_iff.1 given
    exact ⟨Transport.isPrefix_of_carries offers.carried, identity⟩
  case h_2 => cases resolved

/-- What a resolver keeps to as to schemes. -/
structure KeepsSchemes (resolver : Resolver) : Prop where
  /-- Without an address from the variable the unix address that is resolved is one. -/
  unix : (∀ value, ¬resolver.environment.Sets "CONTAINER_HOST" value) →
    ∀ address source, resolver.resolveUnix = .resolved address source →
      "unix://".toList <+: address.toList
  /-- The ssh destination that is resolved has an ssh URI and an identity. -/
  ssh : ∀ destination, resolver.resolveSsh = .ok destination →
    "ssh://".toList <+: destination.uri.toList ∧ destination.identity ≠ ""
  /-- Where its URI gives no parameters, the host or the port in it is to blame. -/
  understood : ∀ destination, resolver.resolveSsh = .ok destination →
    ∀ localUser keyPath passphrase error,
      Params.ofUri localUser destination.uri keyPath passphrase = .error error →
        ∃ message ∈ ["empty host", "invalid port number", "invalid IPv6 address",
            "invalid domain character", "missing host"],
          error = .uriParse destination.uri message

theorem keepsSchemes (resolver : Resolver) : resolver.KeepsSchemes where
  unix unset _ _ resolved := unixMark_isPrefix unset resolved
  ssh _ resolved := isComplete_of_resolveSsh resolved
  understood _ resolved _ _ _ _ refused :=
    Params.message_of_ofUri (isComplete_of_resolveSsh resolved).1 refused

end Resolver

end Gangway
