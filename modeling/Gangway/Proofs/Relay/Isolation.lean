import Mathlib.Data.List.Nodup
import Gangway.Proofs.Relay.Ledger

/-!
# Connections of a relay do not mix

`Flow` says where the bytes between two sides are: what a side has written is what was delivered to
the other, followed by what the relay has not read yet. Every client has a flow with the far end of
its stream, where a client without a stream counts as facing a far end on which nothing happens
(`State.remoteAt`). Moves keep this because a move that copies changes the two sides of one
connection, and no two connections share a stream. `Isolated` gathers what follows for whoever uses
the relay, and `run_isolated` shows it of every run.
-/

namespace Gangway.Ssh.Relay

open Gangway.Text (Bytes)

/-- Between two paired sides nothing is lost, repeated or out of order. -/
structure Flow (client peer : Peer) : Prop where
  up : client.written = peer.received ++ client.unread
  down : peer.written = client.received ++ peer.unread

namespace Flow

variable {client peer : Peer} (flow : Flow client peer)
include flow

theorem clientWrites (bytes : Bytes) : Flow (client.write bytes) peer where
  up := by rw [Peer.write, flow.up, List.append_assoc]
  down := flow.down

theorem remoteWrites (bytes : Bytes) : Flow client (peer.write bytes) where
  up := flow.up
  down := by rw [Peer.write, flow.down, List.append_assoc]

theorem copyUp (count : Nat) :
    Flow (client.takeUnread count) (peer.receive (client.unread.take count)) where
  up := by
    rw [Peer.takeUnread, Peer.receive, List.append_assoc, List.take_append_drop]
    exact flow.up
  down := flow.down

theorem copyDown (count : Nat) :
    Flow (client.receive (peer.unread.take count)) (peer.takeUnread count) where
  up := flow.up
  down := by
    rw [Peer.takeUnread, Peer.receive, List.append_assoc, List.take_append_drop]
    exact flow.down

end Flow

namespace State

variable {events : List Event} {event : Event} {state next : State}

/-- The far end that the client of a connection faces. -/
def remoteAt (state : State) (number : Nat) : Peer :=
  match (state.connectionAt number).link.stream? with
  | some stream => state.streamAt stream
  | none => {}

variable {number stream : Nat}

theorem remoteAt_of_some (paired : (state.connectionAt number).link.stream? = some stream) :
    state.remoteAt number = state.streamAt stream := by
  rw [remoteAt, paired]

theorem remoteAt_of_none (alone : (state.connectionAt number).link.stream? = none) :
    state.remoteAt number = {} := by
  rw [remoteAt, alone]

/-- The far end that is faced stays the same if the stream and what happens on it do. -/
theorem remoteAt_congr
    (link : (next.connectionAt number).link.stream? = (state.connectionAt number).link.stream?)
    (remote : ∀ stream, (state.connectionAt number).link.stream? = some stream →
      next.streamAt stream = state.streamAt stream) :
    next.remoteAt number = state.remoteAt number := by
  cases paired : (state.connectionAt number).link.stream? with
  | none => rw [remoteAt_of_none paired, remoteAt_of_none (link.trans paired)]
  | some stream =>
    rw [remoteAt_of_some paired, remoteAt_of_some (link.trans paired), remote stream paired]

/-- No two connections share a stream. -/
theorem Ledger.unshared (ledger : Ledger events state) {other : Nat}
    (paired : (state.connectionAt number).link.stream? = some stream)
    (paired' : (state.connectionAt other).link.stream? = some stream) : number = other :=
  Option.some.inj (((ledger.paired number stream).1 paired).symm.trans
    ((ledger.paired other stream).1 paired'))

/-- What one move may make of two sides that face each other. -/
inductive Turn (client peer : Peer) : Peer → Peer → Prop where
  | still : Turn client peer client peer
  | clientWrites (bytes : Bytes) : Turn client peer (client.write bytes) peer
  | remoteWrites (bytes : Bytes) : Turn client peer client (peer.write bytes)
  | clientFinishes : Turn client peer client.finish peer
  | remoteFinishes : Turn client peer client peer.finish
  | copyUp (count : Nat) :
      Turn client peer (client.takeUnread count) (peer.receive (client.unread.take count))
  | copyDown (count : Nat) :
      Turn client peer (client.receive (peer.unread.take count)) (peer.takeUnread count)

/-- A connection takes the place of another of the same link: only its own client has a turn. -/
theorem turn_setConnection {other : Nat} {client changed : Peer} {link : Link}
    (found : state.connections[other]? = some ⟨client, link⟩)
    (turn : ∀ peer, Turn client peer changed peer) (number : Nat) :
    Turn (state.connectionAt number).client (state.remoteAt number)
      ((state.setConnection other ⟨changed, link⟩).connectionAt number).client
      ((state.setConnection other ⟨changed, link⟩).remoteAt number) := by
  rw [remoteAt_congr (kept_setConnection (fun c => c.link.stream?) found (by rfl) number)
    fun _ _ => rfl, connectionAt_setConnection found]
  split
  case isTrue here =>
    rw [here, connectionAt_of_getElem? found]
    exact turn _
  case isFalse => exact .still

/-- A far end takes the place of another: only those who face it see a turn. -/
theorem turn_setStream {stream : Nat} {peer changed : Peer}
    (there : state.streams[stream]? = some peer) (turn : ∀ client, Turn client peer client changed)
    (number : Nat) :
    Turn (state.connectionAt number).client (state.remoteAt number)
      ((state.setStream stream changed).connectionAt number).client
      ((state.setStream stream changed).remoteAt number) := by
  have link : (state.setStream stream changed).connectionAt number =
      state.connectionAt number := rfl
  by_cases paired : (state.connectionAt number).link.stream? = some stream
  · have faced : (state.setStream stream changed).remoteAt number = changed := by
      rw [remoteAt_of_some (link ▸ paired), streamAt_setStream there, if_pos rfl]
    rw [link, faced, remoteAt_of_some paired, streamAt_of_getElem? there]
    exact turn _
  · have faced : (state.setStream stream changed).remoteAt number = state.remoteAt number := by
      refine remoteAt_congr (congrArg (fun c => c.link.stream?) link) fun faced known => ?_
      rw [streamAt_setStream there, if_neg]
      rintro rfl
      exact paired known
    rw [link, faced]
    exact .still

/-- Both sides of a connection change: no other connection sees a turn, because none shares the
stream. -/
theorem turn_both (ledger : Ledger events state) {other stream : Nat}
    {client peer client' peer' : Peer}
    (found : state.connections[other]? = some ⟨client, .paired stream⟩)
    (there : state.streams[stream]? = some peer) (turn : Turn client peer client' peer')
    (number : Nat) :
    let next := (state.setConnection other ⟨client', .paired stream⟩).setStream stream peer'
    Turn (state.connectionAt number).client (state.remoteAt number)
      (next.connectionAt number).client (next.remoteAt number) := by
  intro next
  have paired : (state.connectionAt other).link.stream? = some stream := by
    rw [connectionAt_of_getElem? found]
    rfl
  have connection : next.connectionAt number =
      if number = other then ⟨client', .paired stream⟩ else state.connectionAt number :=
    connectionAt_setConnection found _ number
  have remote (faced : Nat) :
      next.streamAt faced = if faced = stream then peer' else state.streamAt faced :=
    getD_set there peer' {} faced
  by_cases here : number = other
  · subst here
    rw [if_pos rfl] at connection
    have paired' : (next.connectionAt number).link.stream? = some stream := by
      rw [connection]
      rfl
    have faced : next.remoteAt number = peer' := by
      rw [remoteAt_of_some paired', remote, if_pos rfl]
    rw [faced, connection, remoteAt_of_some paired, connectionAt_of_getElem? found,
      streamAt_of_getElem? there]
    exact turn
  · rw [if_neg here] at connection
    have faced : next.remoteAt number = state.remoteAt number := by
      refine remoteAt_congr (congrArg (fun c => c.link.stream?) connection) fun faced known => ?_
      rw [remote, if_neg]
      rintro rfl
      exact here (ledger.unshared known paired)
    rw [connection, faced]
    exact .still

/-- What a move makes of the two sides of a connection is up to these two alone. -/
theorem Moves.turn (moved : state.Moves event next) (ledger : Ledger events state) (number : Nat) :
    Turn (state.connectionAt number).client (state.remoteAt number)
      (next.connectionAt number).client (next.remoteAt number) := by
  have still (client : (next.connectionAt number).client = (state.connectionAt number).client)
      (remote : next.remoteAt number = state.remoteAt number) :
      Turn (state.connectionAt number).client (state.remoteAt number)
        (next.connectionAt number).client (next.remoteAt number) := by
    rw [client, remote]
    exact .still
  have linked := moved.link_eq number
  cases moved with
  | accept =>
    have kept := getD_append_default state.connections {} number
    exact still (congrArg Connection.client kept)
      (remoteAt_congr (congrArg (fun c : Connection => c.link.stream?) kept) fun _ _ => rfl)
  | @dialled other client found =>
    refine still (kept_setConnection Connection.client found (by rfl) _) ?_
    have remote := getD_append_default state.streams {}
    rw [Event.linkAfter] at linked
    split at linked
    case isTrue here =>
      -- On the stream that the dial gave nothing has happened yet.
      have alone : (state.connectionAt number).link.stream? = none := by
        rw [here, connectionAt_of_getElem? found]
        rfl
      rw [remoteAt_of_none alone, remoteAt_of_some (congrArg Link.stream? linked)]
      exact (remote _).trans (streamAt_of_length_le (Nat.le_refl _))
    case isFalse =>
      exact remoteAt_congr (congrArg Link.stream? linked) fun stream _ => remote stream
  | refused found | close found =>
    refine still (kept_setConnection Connection.client found (by rfl) _) ?_
    exact remoteAt_congr (kept_setConnection (fun c => c.link.stream?) found (by rfl) _)
      fun _ _ => rfl
  | clientWrites found => exact turn_setConnection found (fun _ => .clientWrites _) _
  | clientFinishes found => exact turn_setConnection found (fun _ => .clientFinishes) _
  | remoteWrites there => exact turn_setStream there (fun _ => .remoteWrites _) _
  | remoteFinishes there => exact turn_setStream there (fun _ => .remoteFinishes) _
  | copyUp found there => exact turn_both ledger found there (.copyUp _) _
  | copyDown found there => exact turn_both ledger found there (.copyDown _) _
  | listenerFails | drop => exact .still

/-- Every client has a flow with the far end that it faces. -/
def Flowing (state : State) : Prop :=
  ∀ number, Flow (state.connectionAt number).client (state.remoteAt number)

/-- At first nothing has been written. -/
theorem flowing_initial : State.Flowing {} := fun _ => ⟨rfl, rfl⟩

/-- A turn keeps the flow between two sides. -/
theorem Turn.flow {client peer client' peer' : Peer} (turn : Turn client peer client' peer')
    (flow : Flow client peer) : Flow client' peer' := by
  cases turn with
  | still => exact flow
  | clientWrites bytes => exact flow.clientWrites bytes
  | remoteWrites bytes => exact flow.remoteWrites bytes
  | clientFinishes => exact ⟨flow.up, flow.down⟩
  | remoteFinishes => exact ⟨flow.up, flow.down⟩
  | copyUp count => exact flow.copyUp count
  | copyDown count => exact flow.copyDown count

/-- Every run keeps all flows. -/
theorem flowing_of_run (ran : State.run {} events = some state) : state.Flowing := by
  induction events using List.reverseRecOn generalizing state with
  | nil =>
    cases ran
    exact flowing_initial
  | append_singleton events event ih =>
    obtain ⟨last, before, stepped⟩ := run_concat_eq_some_iff.1 ran
    intro number
    exact ((moves_of_step stepped).turn (.of_run before) number).flow (ih before number)

/-- A connection that is further than being dialled has been accepted. -/
theorem getElem?_of_further (further : (state.connectionAt number).link ≠ .dialling) :
    state.connections[number]? = some (state.connectionAt number) := by
  cases found : state.connections[number]? with
  | some connection => rw [connectionAt_of_getElem? found]
  | none =>
    refine absurd ?_ further
    rw [connectionAt, List.getD_eq_getElem?_getD, found]
    rfl

/-- The two sides of a connection that is paired with a stream, or was until it ended. -/
structure Pairs (state : State) (number stream : Nat) (client peer : Peer) : Prop where
  connection : ∃ link, state.connections[number]? = some ⟨client, link⟩ ∧
    link.stream? = some stream
  stream : state.streams[stream]? = some peer

variable {client peer : Peer}

theorem Pairs.client_eq (pairs : state.Pairs number stream client peer) :
    (state.connectionAt number).client = client ∧
      (state.connectionAt number).link.stream? = some stream := by
  obtain ⟨⟨link, found, paired⟩, -⟩ := pairs
  rw [connectionAt_of_getElem? found]
  exact ⟨rfl, paired⟩

namespace Ledger

variable (ledger : Ledger events state)
include ledger

/-- A dial gives one stream at most. -/
theorem nodup_pairings : (pairings events).Nodup := by
  refine List.nodup_iff_getElem?_ne_getElem?.2 fun first second before inside same => ?_
  obtain ⟨number, there⟩ : ∃ number, (pairings events)[second]? = some number :=
    ⟨_, List.getElem?_eq_getElem inside⟩
  have paired := (ledger.paired number second).2 there
  rw [(ledger.paired number first).2 (same.trans there)] at paired
  exact Nat.ne_of_lt before (Option.some.inj paired)

/-- A connection and a stream are paired if the stream was dialled for the connection. -/
theorem pairs (dialled : (pairings events)[stream]? = some number) :
    state.Pairs number stream (state.connectionAt number).client (state.streamAt stream) where
  connection := by
    have paired := (ledger.paired number stream).2 dialled
    have further : (state.connectionAt number).link ≠ .dialling := by
      intro dialling
      rw [dialling] at paired
      cases paired
    exact ⟨_, getElem?_of_further further, paired⟩
  stream := by
    have inside := (List.getElem?_eq_some_iff.1 dialled).1
    rw [← ledger.streams] at inside
    have there := List.getElem?_eq_getElem inside
    rw [streamAt_of_getElem? there, there]

end Ledger

/-- Nothing is delivered to a client without a stream. -/
theorem received_of_alone (flowing : state.Flowing) {link : Link}
    (found : state.connections[number]? = some ⟨client, link⟩) (alone : link.stream? = none) :
    client.received = [] := by
  have flow := flowing number
  have connection := connectionAt_of_getElem? found
  rw [remoteAt_of_none (connection ▸ alone), connection] at flow
  exact (List.append_eq_nil_iff.1 flow.down.symm).1

/-- A connection can be accepted as long as the relay listens. -/
theorem isSome_step_accept : (state.step .accept).isSome ↔ state.listening = true := by
  unfold step
  cases state.listening <;> simp

/-- A relay that was dropped does not listen again. -/
theorem notMem_accept_of_run {before after : List Event}
    (ran : State.run {} (before ++ .drop :: after) = some state) : .accept ∉ after := by
  induction after using List.reverseRecOn generalizing state with
  | nil => exact List.not_mem_nil
  | append_singleton after event ih =>
    rw [← List.cons_append, ← List.append_assoc] at ran
    obtain ⟨last, earlier, stepped⟩ := run_concat_eq_some_iff.1 ran
    intro member
    rcases List.mem_append.1 member with member | now
    · exact ih earlier member
    · cases List.mem_singleton.1 now
      have listening := isSome_step_accept.1 (Option.isSome_of_mem stepped)
      exact ((Ledger.of_run earlier).listening.1 listening).1 (by simp)

end State

/-- What users of a relay may rely on after some events. -/
structure Isolated (events : List Event) (state : State) : Prop where
  /-- The connections are those that were accepted. -/
  accepted : state.connections.length = events.count .accept
  /-- Each of them has caused one dial, and nothing else has caused any. -/
  dialled : ∀ number,
    state.dials.count number = if number < state.connections.length then 1 else 0
  /-- No dial gives two streams. -/
  once : (pairings events).Nodup
  /-- A connection is paired with the stream that its dial gave, and with no other. -/
  paired : ∀ number stream, (∃ client peer, state.Pairs number stream client peer) ↔
    (pairings events)[stream]? = some number
  /-- Every stream is paired with a connection. -/
  owned : ∀ stream peer, state.streams[stream]? = some peer →
    ∃ number client, state.Pairs number stream client peer
  /-- What was delivered to either side of a pair is a first part of what the other has written. -/
  delivered : ∀ number stream client peer, state.Pairs number stream client peer →
    peer.received <+: clientText events number ∧ client.received <+: remoteText events stream
  /-- Nothing is delivered to a client without a stream. -/
  alone : ∀ (number : Nat) (client : Peer) (link : Link),
    state.connections[number]? = some ⟨client, link⟩ → link.stream? = none → client.received = []
  /-- A connection whose dial is refused has ended, and nothing was delivered to it. -/
  refused : ∀ number, .refused number ∈ events → ∃ client,
    state.connections[number]? = some ⟨client, .closed none⟩ ∧ client.received = []
  /-- A refusal changes nothing else. -/
  apart : ∀ number next, state.step (.refused number) = some next →
    next.listening = state.listening ∧ next.streams = state.streams ∧
      ∀ other, other ≠ number → next.connections[other]? = state.connections[other]?
  /-- The relay keeps accepting until it is dropped or its socket fails. -/
  accepts : (state.step .accept).isSome ↔ .drop ∉ events ∧ .listenerFails ∉ events
  /-- Nothing is accepted once it is dropped. -/
  dropped : ∀ before after, events = before ++ .drop :: after → .accept ∉ after

/-- **Connections of a relay are isolated** after every run, whatever its events and in whatever
order they came. -/
theorem run_isolated {events : List Event} {state : State}
    (ran : State.run {} events = some state) : Isolated events state := by
  have ledger := State.Ledger.of_run ran
  have flowing := State.flowing_of_run ran
  refine
    { accepted := ledger.accepted
      dialled := fun number => ?dialled
      once := ledger.nodup_pairings
      paired := fun number stream => ⟨?paired, fun dialled => ⟨_, _, ledger.pairs dialled⟩⟩
      owned := fun stream peer there => ?owned
      delivered := ?delivered
      alone := ?alone
      refused := ?refused
      apart := ?apart
      accepts := State.isSome_step_accept.trans ledger.listening
      dropped := ?dropped }
  case dialled =>
    rw [ledger.dials, List.nodup_range.count]
    simp only [List.mem_range]
  case paired =>
    rintro ⟨client, peer, pairs⟩
    exact (ledger.paired number stream).1 pairs.client_eq.2
  case owned =>
    have inside := (List.getElem?_eq_some_iff.1 there).1
    rw [ledger.streams] at inside
    have pairs := ledger.pairs (List.getElem?_eq_getElem inside)
    rw [State.streamAt_of_getElem? there] at pairs
    exact ⟨_, _, pairs⟩
  case delivered =>
    rintro number stream client peer pairs
    obtain ⟨rfl, paired⟩ := pairs.client_eq
    have flow := flowing number
    rw [State.remoteAt_of_some paired, State.streamAt_of_getElem? pairs.stream] at flow
    rw [← ledger.clientWrote, ← ledger.remoteWrote, State.streamAt_of_getElem? pairs.stream,
      flow.up, flow.down]
    exact ⟨List.prefix_append _ _, List.prefix_append _ _⟩
  case alone =>
    intro number client link found alone
    exact State.received_of_alone flowing found alone
  case refused =>
    intro number refused
    have link := (ledger.refused number).2 refused
    have further : (state.connectionAt number).link ≠ .dialling := by
      rw [link]
      nofun
    have found := State.getElem?_of_further further
    have found' : state.connections[number]? =
        some ⟨(state.connectionAt number).client, .closed none⟩ := by
      rw [found, ← link]
    exact ⟨_, found', State.received_of_alone flowing found' rfl⟩
  case apart =>
    intro number next stepped
    cases State.moves_of_step stepped with
    | refused found =>
      refine ⟨rfl, rfl, fun other different => ?_⟩
      exact List.getElem?_set_ne different.symm
  case dropped =>
    rintro before after rfl
    exact State.notMem_accept_of_run ran

/-- Three clients, of which the second gets the first stream and the third none. -/
def crossingEvents : List Event :=
  [.accept, .accept, .clientWrites 0 [1, 2], .accept, .dialled 1, .clientWrites 1 [7], .refused 2,
    .copy 1 .up 4, .dialled 0, .copy 0 .up 1, .drop, .remoteWrites 0 [9, 8], .copy 1 .down 1,
    .close 0]

/-- What these events lead to. -/
def crossingState : State where
  listening := false
  connections := [⟨⟨[1, 2], [2], [], true⟩, .closed (some 1)⟩, ⟨⟨[7], [], [9], true⟩, .paired 0⟩,
    ⟨{}, .closed none⟩]
  dials := [0, 1, 2]
  streams := [⟨[9, 8], [8], [7], true⟩, ⟨[], [], [1], true⟩]

theorem run_isolated_crossing :
    State.run {} crossingEvents = some crossingState ∧ Isolated crossingEvents crossingState :=
  ⟨by decide, run_isolated (by decide)⟩

end Gangway.Ssh.Relay
