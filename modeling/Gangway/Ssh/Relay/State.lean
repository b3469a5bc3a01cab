import Gangway.Text.Utf8

/-!
# Relayed connections

A relay accepts local connections and dials a remote stream for each. What one side writes is copied
to the other side in order, as far and as soon as the relay gets to it. `State` keeps what each side
has written and received; `State.step` says what an event makes of it, or that the event cannot
happen. A connection is named by its number in the order of acceptance, and a stream by its number
in the order of the dials that succeed.
-/

namespace Gangway.Ssh.Relay

open Gangway.Text (Bytes)

/-- One side of a connection: the local client or the remote peer. -/
structure Peer where
  /-- Everything the side has written. -/
  written : Bytes := []
  /-- What the relay has not read of it. -/
  unread : Bytes := []
  /-- Everything that was delivered to the side. -/
  received : Bytes := []
  /-- Whether the side may still write. -/
  writing : Bool := true
  deriving DecidableEq, Repr

namespace Peer

/-- The side after writing some bytes. -/
def write (peer : Peer) (bytes : Bytes) : Peer :=
  { peer with written := peer.written ++ bytes, unread := peer.unread ++ bytes }

/-- The side after the relay has read some bytes of it. -/
def takeUnread (peer : Peer) (count : Nat) : Peer := { peer with unread := peer.unread.drop count }

/-- The side after some bytes were delivered to it. -/
def receive (peer : Peer) (bytes : Bytes) : Peer := { peer with received := peer.received ++ bytes }

/-- The side after it has ended its writing. -/
def finish (peer : Peer) : Peer := { peer with writing := false }

end Peer

/-- How far a connection is. -/
inductive Link where
  /-- The remote stream is being dialled. -/
  | dialling
  /-- Bytes are copied between the client and a stream. -/
  | paired (stream : Nat)
  /-- The connection has ended, after being paired with a stream if it ever was. -/
  | closed (stream : Option Nat)
  deriving DecidableEq, Repr

/-- The stream that a connection is or was paired with. -/
def Link.stream? : Link → Option Nat
  | .dialling => none
  | .paired stream => some stream
  | .closed stream => stream

/-- A connection at the relay. -/
structure Connection where
  client : Peer := {}
  link : Link := .dialling
  deriving DecidableEq, Repr

/-- The connections and streams of a relay. -/
structure State where
  /-- Whether further connections are accepted. -/
  listening : Bool := true
  connections : List Connection := []
  /-- The connections that streams were dialled for, in order. -/
  dials : List Nat := []
  /-- The far ends of the streams that were dialled. -/
  streams : List Peer := []
  deriving DecidableEq, Repr

/-- The two directions of a connection. -/
inductive Direction where
  /-- From the client to the remote peer. -/
  | up
  /-- From the remote peer to the client. -/
  | down
  deriving DecidableEq, Repr

/-- What happens to a relay. -/
inductive Event where
  /-- A local client connects, and a stream is dialled for it. -/
  | accept
  /-- The dial of a connection gives a stream. -/
  | dialled (connection : Nat)
  /-- The dial of a connection is refused. -/
  | refused (connection : Nat)
  /-- The client of a connection writes. -/
  | clientWrites (connection : Nat) (bytes : Bytes)
  /-- The far end of a stream writes. -/
  | remoteWrites (stream : Nat) (bytes : Bytes)
  /-- The client of a connection ends its writing. -/
  | clientFinishes (connection : Nat)
  /-- The far end of a stream ends its writing. -/
  | remoteFinishes (stream : Nat)
  /-- The relay copies so many bytes. -/
  | copy (connection : Nat) (direction : Direction) (count : Nat)
  /-- The connection ends. -/
  | close (connection : Nat)
  /-- The relay's socket fails, and no connection can be accepted from it any more. -/
  | listenerFails
  /-- The relay is dropped. -/
  | drop
  deriving DecidableEq, Repr

namespace State

/-- The state with another connection in the place of one. -/
def setConnection (state : State) (number : Nat) (connection : Connection) : State :=
  { state with connections := state.connections.set number connection }

/-- The state with another far end in the place of one. -/
def setStream (state : State) (number : Nat) (peer : Peer) : State :=
  { state with streams := state.streams.set number peer }

/-- The state after bytes were copied up: they are read from the client and delivered to the
stream. -/
def copyUp (state : State) (number stream : Nat) (connection : Connection) (peer : Peer)
    (count : Nat) : State :=
  let bytes := connection.client.unread.take count
  let read := { connection with client := connection.client.takeUnread count }
  (state.setConnection number read).setStream stream (peer.receive bytes)

/-- The state after bytes were copied down. -/
def copyDown (state : State) (number stream : Nat) (connection : Connection) (peer : Peer)
    (count : Nat) : State :=
  let bytes := peer.unread.take count
  let served := { connection with client := connection.client.receive bytes }
  (state.setConnection number served).setStream stream (peer.takeUnread count)

/-- The state after an event, unless the event cannot happen. -/
def step (state : State) : Event → Option State
  | .accept =>
    if state.listening then
      some { state with
        connections := state.connections ++ [{}]
        dials := state.dials ++ [state.connections.length] }
    else none
  | .dialled number =>
    match state.connections[number]? with
    | some ⟨client, .dialling⟩ =>
      let state := state.setConnection number ⟨client, .paired state.streams.length⟩
      some { state with streams := state.streams ++ [{}] }
    | _ => none
  | .refused number =>
    match state.connections[number]? with
    | some ⟨client, .dialling⟩ => some (state.setConnection number ⟨client, .closed none⟩)
    | _ => none
  | .clientWrites number bytes =>
    match state.connections[number]? with
    | some connection =>
      if connection.client.writing then
        let client := connection.client.write bytes
        some (state.setConnection number { connection with client })
      else none
    | none => none
  | .remoteWrites stream bytes =>
    match state.streams[stream]? with
    | some peer => if peer.writing then some (state.setStream stream (peer.write bytes)) else none
    | none => none
  | .clientFinishes number =>
    match state.connections[number]? with
    | some connection =>
      some (state.setConnection number { connection with client := connection.client.finish })
    | none => none
  | .remoteFinishes stream =>
    match state.streams[stream]? with
    | some peer => some (state.setStream stream peer.finish)
    | none => none
  | .copy number direction count =>
    match state.connections[number]? with
    | some ⟨client, .paired stream⟩ =>
      match state.streams[stream]? with
      | some peer =>
        match direction with
        | .up => some (state.copyUp number stream ⟨client, .paired stream⟩ peer count)
        | .down => some (state.copyDown number stream ⟨client, .paired stream⟩ peer count)
      | none => none
    | _ => none
  | .close number =>
    match state.connections[number]? with
    | some ⟨client, .paired stream⟩ =>
      some (state.setConnection number ⟨client, .closed (some stream)⟩)
    | _ => none
  | .listenerFails => if state.listening then some { state with listening := false } else none
  | .drop => some { state with listening := false }

/-- The state after events one after the other. -/
def run (state : State) (events : List Event) : Option State := events.foldlM step state

end State

end Gangway.Ssh.Relay
