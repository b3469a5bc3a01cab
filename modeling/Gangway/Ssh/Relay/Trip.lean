import Gangway.Ssh.Relay.State

/-!
# Round trips

A round trip is one client that connects, writes a text, ends its writing and reads to the end. What
it reads depends on the far end that its dial gives.
-/

namespace Gangway.Ssh.Relay

open Gangway.Text (Bytes)

/-- What a dial gives. -/
inductive FarEnd where
  /-- A stream whose far end writes back what it receives. -/
  | echo
  /-- Nothing: the dial is refused. -/
  | refusal
  /-- A stream whose far end is closed. -/
  | gone
  deriving DecidableEq, Repr

/-- What the number-th dial of a script gives: its last entry is repeated, and an empty script
refuses. -/
def scripted (script : List FarEnd) (number : Nat) : FarEnd :=
  (script[number]? <|> script.getLast?).getD .refusal

/-- The events of a round trip on the connection and the stream of these numbers. -/
def tripEvents (connection stream : Nat) (text : Bytes) : FarEnd → List Event
  | .refusal => [.accept, .clientWrites connection text, .refused connection]
  | .gone =>
    [.accept, .clientWrites connection text, .dialled connection, .remoteFinishes stream,
      .close connection]
  | .echo =>
    [.accept, .dialled connection, .clientWrites connection text, .clientFinishes connection,
      .copy connection .up text.length, .remoteWrites stream text, .remoteFinishes stream,
      .copy connection .down text.length, .close connection]

/-- The state after a round trip and what the client has read, unless the relay does not accept
it. -/
def trip (state : State) (farEnd : FarEnd) (text : Bytes) : Option (State × Bytes) := do
  let connection := state.connections.length
  let state ← state.run (tripEvents connection state.streams.length text farEnd)
  return (state, (state.connections[connection]?.map (·.client.received)).getD [])

/-- What the clients of round trips one after the other read, and the state after them. -/
def trips (script : List FarEnd) (number : Nat) (state : State) : List Bytes → State × List Bytes
  | [] => (state, [])
  | text :: rest =>
    match trip state (scripted script number) text with
    | some (next, read) =>
      let (last, more) := trips script (number + 1) next rest
      (last, read :: more)
    | none =>
      let (last, more) := trips script number state rest
      (last, [] :: more)

end Gangway.Ssh.Relay
