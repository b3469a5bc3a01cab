import Gangway.Ssh.Relay.State

/-!
# What an event makes of a relay

`State.Moves` names what every event needs and what it leaves behind, so that no proof has to take
`State.step` apart again. A state is looked at connection by connection: `connectionAt` and
`streamAt` give what is known of a number, and a number that is not in use yet counts as a
connection that is being dialled, or a stream on which nothing has happened. Accepting and dialling
then change nothing but links, and every event changes at most one connection and one stream.
-/

namespace Gangway.Ssh.Relay

open Gangway.Text (Bytes)

namespace State

variable {state next : State} {event : Event} {number stream : Nat}

/-- The connection of a number. -/
def connectionAt (state : State) (number : Nat) : Connection := state.connections.getD number {}

/-- The far end of the stream of a number. -/
def streamAt (state : State) (stream : Nat) : Peer := state.streams.getD stream {}

theorem connectionAt_of_getElem? {connection : Connection}
    (found : state.connections[number]? = some connection) :
    state.connectionAt number = connection := by
  rw [connectionAt, List.getD_eq_getElem?_getD, found, Option.getD_some]

theorem streamAt_of_getElem? {peer : Peer} (found : state.streams[stream]? = some peer) :
    state.streamAt stream = peer := by
  rw [streamAt, List.getD_eq_getElem?_getD, found, Option.getD_some]

theorem streamAt_of_length_le (unused : state.streams.length ≤ stream) :
    state.streamAt stream = {} := by
  rw [streamAt, List.getD_eq_getElem?_getD, List.getElem?_eq_none unused, Option.getD_none]

/-- A default at the end of a list leaves all look-ups as they are. -/
theorem getD_append_default {α : Type} (values : List α) (default : α) (index : Nat) :
    (values ++ [default]).getD index default = values.getD index default := by
  simp only [List.getD_eq_getElem?_getD, List.getElem?_append]
  split
  · rfl
  · rename_i beyond
    rw [List.getElem?_eq_none (Nat.not_lt.1 beyond)]
    cases index - values.length with
    | zero => rfl
    | succ rest => rfl

/-- A value that is put in the place of another is all that changes. -/
theorem getD_set {α : Type} {values : List α} {index : Nat} {old : α}
    (found : values[index]? = some old) (value default : α) (other : Nat) :
    (values.set index value).getD other default =
      if other = index then value else values.getD other default := by
  have inside : index < values.length := (List.getElem?_eq_some_iff.1 found).1
  simp only [List.getD_eq_getElem?_getD, List.getElem?_set]
  by_cases same : other = index
  · simp [same, inside]
  · simp [same, Ne.symm same]

theorem connectionAt_setConnection {old : Connection}
    (found : state.connections[number]? = some old) (connection : Connection) (other : Nat) :
    (state.setConnection number connection).connectionAt other =
      if other = number then connection else state.connectionAt other :=
  getD_set found connection {} other

theorem streamAt_setStream {old : Peer} (found : state.streams[stream]? = some old) (peer : Peer)
    (other : Nat) :
    (state.setStream stream peer).streamAt other =
      if other = stream then peer else state.streamAt other :=
  getD_set found peer {} other

/-- What two connections have in common is kept when one takes the place of the other. -/
theorem kept_setConnection {α : Type} (view : Connection → α) {old connection : Connection}
    (found : state.connections[number]? = some old) (same : view connection = view old)
    (other : Nat) :
    view ((state.setConnection number connection).connectionAt other) =
      view (state.connectionAt other) := by
  rw [connectionAt_setConnection found]
  split
  case isTrue here => rw [here, connectionAt_of_getElem? found, same]
  case isFalse => rfl

/-- What two far ends have in common is kept when one takes the place of the other. -/
theorem kept_setStream {α : Type} (view : Peer → α) {old peer : Peer}
    (there : state.streams[stream]? = some old) (same : view peer = view old) (other : Nat) :
    view ((state.setStream stream peer).streamAt other) = view (state.streamAt other) := by
  rw [streamAt_setStream there]
  split
  case isTrue here => rw [here, streamAt_of_getElem? there, same]
  case isFalse => rfl

/-- What an event needs, and the state that it leaves. -/
inductive Moves (state : State) : Event → State → Prop where
  | accept (listening : state.listening = true) :
      Moves state .accept { state with
        connections := state.connections ++ [{}]
        dials := state.dials ++ [state.connections.length] }
  | dialled {number : Nat} {client : Peer}
      (found : state.connections[number]? = some ⟨client, .dialling⟩) :
      Moves state (.dialled number)
        { state.setConnection number ⟨client, .paired state.streams.length⟩ with
          streams := state.streams ++ [{}] }
  | refused {number : Nat} {client : Peer}
      (found : state.connections[number]? = some ⟨client, .dialling⟩) :
      Moves state (.refused number) (state.setConnection number ⟨client, .closed none⟩)
  | clientWrites {number : Nat} {client : Peer} {link : Link} {bytes : Bytes}
      (found : state.connections[number]? = some ⟨client, link⟩) (writing : client.writing = true) :
      Moves state (.clientWrites number bytes)
        (state.setConnection number ⟨client.write bytes, link⟩)
  | remoteWrites {stream : Nat} {peer : Peer} {bytes : Bytes}
      (there : state.streams[stream]? = some peer) (writing : peer.writing = true) :
      Moves state (.remoteWrites stream bytes) (state.setStream stream (peer.write bytes))
  | clientFinishes {number : Nat} {client : Peer} {link : Link}
      (found : state.connections[number]? = some ⟨client, link⟩) :
      Moves state (.clientFinishes number) (state.setConnection number ⟨client.finish, link⟩)
  | remoteFinishes {stream : Nat} {peer : Peer} (there : state.streams[stream]? = some peer) :
      Moves state (.remoteFinishes stream) (state.setStream stream peer.finish)
  | copyUp {number stream count : Nat} {client peer : Peer}
      (found : state.connections[number]? = some ⟨client, .paired stream⟩)
      (there : state.streams[stream]? = some peer) :
      Moves state (.copy number .up count)
        ((state.setConnection number ⟨client.takeUnread count, .paired stream⟩).setStream stream
          (peer.receive (client.unread.take count)))
  | copyDown {number stream count : Nat} {client peer : Peer}
      (found : state.connections[number]? = some ⟨client, .paired stream⟩)
      (there : state.streams[stream]? = some peer) :
      Moves state (.copy number .down count)
        ((state.setConnection number
          ⟨client.receive (peer.unread.take count), .paired stream⟩).setStream stream
            (peer.takeUnread count))
  | close {number stream : Nat} {client : Peer}
      (found : state.connections[number]? = some ⟨client, .paired stream⟩) :
      Moves state (.close number) (state.setConnection number ⟨client, .closed (some stream)⟩)
  | listenerFails (listening : state.listening = true) :
      Moves state .listenerFails { state with listening := false }
  | drop : Moves state .drop { state with listening := false }

/-- Every step is one of these moves. -/
theorem moves_of_step (stepped : state.step event = some next) : state.Moves event next := by
  cases event with
  | accept =>
    simp only [step] at stepped
    split at stepped
    case isTrue listening =>
      cases stepped
      exact .accept listening
    case isFalse => cases stepped
  | dialled number =>
    simp only [step] at stepped
    split at stepped
    case h_1 client found =>
      cases stepped
      exact .dialled found
    case h_2 => cases stepped
  | refused number =>
    simp only [step] at stepped
    split at stepped
    case h_1 client found =>
      cases stepped
      exact .refused found
    case h_2 => cases stepped
  | clientWrites number bytes =>
    simp only [step] at stepped
    split at stepped
    case h_1 connection found =>
      split at stepped
      case isTrue writing =>
        cases stepped
        exact .clientWrites found writing
      case isFalse => cases stepped
    case h_2 => cases stepped
  | remoteWrites stream bytes =>
    simp only [step] at stepped
    split at stepped
    case h_1 peer there =>
      split at stepped
      case isTrue writing =>
        cases stepped
        exact .remoteWrites there writing
      case isFalse => cases stepped
    case h_2 => cases stepped
  | clientFinishes number =>
    simp only [step] at stepped
    split at stepped
    case h_1 connection found =>
      cases stepped
      exact .clientFinishes found
    case h_2 => cases stepped
  | remoteFinishes stream =>
    simp only [step] at stepped
    split at stepped
    case h_1 peer there =>
      cases stepped
      exact .remoteFinishes there
    case h_2 => cases stepped
  | copy number direction count =>
    simp only [step] at stepped
    split at stepped
    case h_1 client stream found =>
      split at stepped
      case h_1 peer there =>
        cases direction with
        | up =>
          cases stepped
          exact .copyUp found there
        | down =>
          cases stepped
          exact .copyDown found there
      case h_2 => cases stepped
    case h_2 => cases stepped
  | close number =>
    simp only [step] at stepped
    split at stepped
    case h_1 client stream found =>
      cases stepped
      exact .close found
    case h_2 => cases stepped
  | listenerFails =>
    simp only [step] at stepped
    split at stepped
    case isTrue listening =>
      cases stepped
      exact .listenerFails listening
    case isFalse => cases stepped
  | drop =>
    cases stepped
    exact .drop

/-- A run that is one event longer makes one more step. -/
theorem run_concat_eq_some_iff {events : List Event} :
    state.run (events ++ [event]) = some next ↔
      ∃ last, state.run events = some last ∧ last.step event = some next := by
  simp only [run, List.foldlM_append, List.foldlM_cons, List.foldlM_nil, bind, pure,
    Option.bind_eq_some_iff, Option.some.injEq, exists_eq_right]

end State

end Gangway.Ssh.Relay
