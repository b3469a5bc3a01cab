import Mathlib.Data.List.Induction
import Gangway.Proofs.Relay.Moves

/-!
# What the events so far tell of a relay

The state of a relay is an account of its events. `State.Ledger` says of a run whether the relay
still listens, how many connections it has accepted, how far each of them is, which stream a dial
gave to which connection, and what each side has written, all by the events alone. One event keeps
the account (`Ledger.step`), and so does a whole run (`Ledger.of_run`).
-/

namespace Gangway.Ssh.Relay

open Gangway.Text (Bytes)

namespace Event

/-- The connection whose dial gives a stream in an event. -/
def paired? : Event → Option Nat
  | .dialled number => some number
  | _ => none

/-- The bytes that the client of a connection writes in an event. -/
def clientBytes (number : Nat) : Event → Bytes
  | .clientWrites writer bytes => if number = writer then bytes else []
  | _ => []

/-- The bytes that the far end of a stream writes in an event. -/
def remoteBytes (stream : Nat) : Event → Bytes
  | .remoteWrites writer bytes => if stream = writer then bytes else []
  | _ => []

/-- How far a connection is after an event, when so many streams were there before it. -/
def linkAfter (streams number : Nat) (link : Link) : Event → Link
  | .dialled other => if number = other then .paired streams else link
  | .refused other => if number = other then .closed none else link
  | .close other => if number = other then .closed link.stream? else link
  | _ => link

end Event

/-- The connections that streams were dialled for, in the order of the streams. -/
def pairings (events : List Event) : List Nat := events.filterMap Event.paired?

/-- Everything that the client of a connection has written. -/
def clientText (events : List Event) (number : Nat) : Bytes :=
  events.flatMap (Event.clientBytes number)

/-- Everything that the far end of a stream has written. -/
def remoteText (events : List Event) (stream : Nat) : Bytes :=
  events.flatMap (Event.remoteBytes stream)

variable {events : List Event} {event : Event}

theorem clientText_concat (number : Nat) :
    clientText (events ++ [event]) number =
      clientText events number ++ event.clientBytes number := by
  simp [clientText]

theorem remoteText_concat (stream : Nat) :
    remoteText (events ++ [event]) stream =
      remoteText events stream ++ event.remoteBytes stream := by
  simp [remoteText]

theorem pairings_concat :
    pairings (events ++ [event]) = pairings events ++ event.paired?.toList := by
  unfold pairings
  rw [List.filterMap_append]
  cases paired : event.paired? with
  | none => simp [paired]
  | some number => simp [paired]

/-- A list that is one value longer holds the value at its end. -/
theorem getElem?_concat_eq_some_iff {α : Type} {values : List α} {last value : α} {index : Nat} :
    (values ++ [last])[index]? = some value ↔
      values[index]? = some value ∨ index = values.length ∧ last = value := by
  rcases Nat.lt_trichotomy index values.length with inside | rfl | beyond
  · rw [List.getElem?_append_left inside]
    simp [Nat.ne_of_lt inside]
  · simp
  · have last : (values ++ [last]).length ≤ index := by
      rw [List.length_append, List.length_singleton]
      exact beyond
    rw [List.getElem?_eq_none last, List.getElem?_eq_none (Nat.le_of_lt beyond)]
    simp [Nat.ne_of_gt beyond]

/-- A dial that gives a stream adds its connection at the end. -/
theorem getElem?_pairings_concat_eq_some_iff {number stream : Nat} :
    (pairings (events ++ [event]))[stream]? = some number ↔
      (pairings events)[stream]? = some number ∨
        event = .dialled number ∧ stream = (pairings events).length := by
  rw [pairings_concat]
  cases event with
  | dialled other =>
    rw [Event.paired?, Option.toList_some, getElem?_concat_eq_some_iff, Event.dialled.injEq,
      and_comm]
  | _ => simp [Event.paired?]

namespace State

variable {state next : State}

section Moves

variable (moved : state.Moves event next)
include moved

/-- A move changes the link of the connection that it is about, and no other. -/
theorem Moves.link_eq (number : Nat) :
    (next.connectionAt number).link =
      event.linkAfter state.streams.length number (state.connectionAt number).link := by
  cases moved with
  | accept => exact congrArg Connection.link (getD_append_default ..)
  | dialled found =>
    refine (congrArg Connection.link (connectionAt_setConnection found _ _)).trans ?_
    exact apply_ite Connection.link _ _ _
  | refused found =>
    rw [connectionAt_setConnection found]
    exact apply_ite Connection.link _ _ _
  | close found =>
    rw [connectionAt_setConnection found, apply_ite Connection.link]
    refine ite_congr rfl (fun same => ?_) fun _ => rfl
    rw [same, connectionAt_of_getElem? found]
    rfl
  | clientWrites found | clientFinishes found | copyUp found | copyDown found =>
    exact kept_setConnection Connection.link found (by rfl) _
  | remoteWrites | remoteFinishes | listenerFails | drop => rfl

/-- A connection stays as far as it is, or its dial has a result, or it ends. -/
theorem Moves.link_cases (number : Nat) :
    ((next.connectionAt number).link = (state.connectionAt number).link ∧
      event ≠ .dialled number ∧ event ≠ .refused number) ∨
    (event = .dialled number ∧ (state.connectionAt number).link = .dialling ∧
      (next.connectionAt number).link = .paired state.streams.length) ∨
    (event = .refused number ∧ (state.connectionAt number).link = .dialling ∧
      (next.connectionAt number).link = .closed none) ∨
    ∃ stream, event = .close number ∧ (state.connectionAt number).link = .paired stream ∧
      (next.connectionAt number).link = .closed (some stream) := by
  have linked := moved.link_eq number
  cases moved with
  | @dialled other client found =>
    by_cases here : number = other
    · subst here
      have before : (state.connectionAt number).link = .dialling := by
        rw [connectionAt_of_getElem? found]
      exact .inr (.inl ⟨rfl, before, linked.trans (if_pos rfl)⟩)
    · have elsewhere : Event.dialled other ≠ .dialled number := by simpa using Ne.symm here
      exact .inl ⟨linked.trans (if_neg here), elsewhere, nofun⟩
  | @refused other client found =>
    by_cases here : number = other
    · subst here
      have before : (state.connectionAt number).link = .dialling := by
        rw [connectionAt_of_getElem? found]
      exact .inr (.inr (.inl ⟨rfl, before, linked.trans (if_pos rfl)⟩))
    · have elsewhere : Event.refused other ≠ .refused number := by simpa using Ne.symm here
      exact .inl ⟨linked.trans (if_neg here), nofun, elsewhere⟩
  | @close other stream client found =>
    by_cases here : number = other
    · subst here
      have before : (state.connectionAt number).link = .paired stream := by
        rw [connectionAt_of_getElem? found]
      rw [before] at linked
      exact .inr (.inr (.inr ⟨stream, rfl, before, linked.trans (if_pos rfl)⟩))
    · exact .inl ⟨linked.trans (if_neg here), nofun, nofun⟩
  | _ => exact .inl ⟨linked, nofun, nofun⟩

/-- What a client has written grows by what it writes in a move. -/
theorem Moves.client_written (number : Nat) :
    (next.connectionAt number).client.written =
      (state.connectionAt number).client.written ++ event.clientBytes number := by
  -- Only one event adds anything.
  have quiet {bytes : Bytes} (kept : (next.connectionAt number).client.written = bytes) :
      (next.connectionAt number).client.written = bytes ++ [] := by
    rw [kept, List.append_nil]
  cases moved with
  | accept =>
    exact quiet (congrArg (fun c : Connection => c.client.written) (getD_append_default ..))
  | clientWrites found =>
    rw [connectionAt_setConnection found, Event.clientBytes]
    split
    case isTrue here =>
      rw [here, connectionAt_of_getElem? found]
      rfl
    case isFalse => rw [List.append_nil]
  | dialled found | refused found | close found | clientFinishes found | copyUp found
  | copyDown found =>
    exact quiet (kept_setConnection (fun c => c.client.written) found (by rfl) _)
  | remoteWrites | remoteFinishes | listenerFails | drop => exact quiet rfl

/-- What a far end has written grows by what it writes in a move. -/
theorem Moves.remote_written (stream : Nat) :
    (next.streamAt stream).written =
      (state.streamAt stream).written ++ event.remoteBytes stream := by
  have quiet {bytes : Bytes} (kept : (next.streamAt stream).written = bytes) :
      (next.streamAt stream).written = bytes ++ [] := by
    rw [kept, List.append_nil]
  cases moved with
  | dialled found => exact quiet (congrArg Peer.written (getD_append_default ..))
  | remoteWrites there =>
    rw [streamAt_setStream there, Event.remoteBytes]
    split
    case isTrue here =>
      rw [here, streamAt_of_getElem? there]
      rfl
    case isFalse => rw [List.append_nil]
  | remoteFinishes there | copyUp _ there | copyDown _ there =>
    exact quiet (kept_setStream Peer.written there (by rfl) _)
  | accept | refused | clientWrites | clientFinishes | close | listenerFails | drop =>
    exact quiet rfl

end Moves

/-- The state of a relay, as far as its events tell of it. -/
structure Ledger (events : List Event) (state : State) : Prop where
  listening : state.listening = true ↔ .drop ∉ events ∧ .listenerFails ∉ events
  accepted : state.connections.length = events.count .accept
  dials : state.dials = List.range state.connections.length
  streams : state.streams.length = (pairings events).length
  dialling : ∀ number, (state.connectionAt number).link = .dialling ↔
    .dialled number ∉ events ∧ .refused number ∉ events
  refused : ∀ number, (state.connectionAt number).link = .closed none ↔ .refused number ∈ events
  paired : ∀ number stream, (state.connectionAt number).link.stream? = some stream ↔
    (pairings events)[stream]? = some number
  clientWrote : ∀ number,
    (state.connectionAt number).client.written = clientText events number
  remoteWrote : ∀ stream, (state.streamAt stream).written = remoteText events stream

namespace Ledger

/-- At first nothing has happened. -/
theorem initial : Ledger [] {} where
  listening := by simp
  accepted := rfl
  dials := rfl
  streams := rfl
  dialling := by simp [connectionAt]
  refused := by simp [connectionAt]
  paired := by simp [connectionAt, pairings, Link.stream?]
  clientWrote _ := rfl
  remoteWrote _ := rfl

variable (ledger : Ledger events state) (moved : state.Moves event next)
include ledger moved

theorem dialling_step (number : Nat) : (next.connectionAt number).link = .dialling ↔
    .dialled number ∉ events ++ [event] ∧ .refused number ∉ events ++ [event] := by
  have before := ledger.dialling number
  rcases moved.link_cases number with
    ⟨same, dialled, refused⟩ | ⟨rfl, -, now⟩ | ⟨rfl, -, now⟩ | ⟨stream, rfl, link, now⟩
  · rw [same, before]
    simp [Ne.symm dialled, Ne.symm refused]
  · simp [now]
  · simp [now]
  · rw [link] at before
    simpa [now] using before

theorem refused_step (number : Nat) :
    (next.connectionAt number).link = .closed none ↔ .refused number ∈ events ++ [event] := by
  have before := ledger.refused number
  rcases moved.link_cases number with
    ⟨same, -, refused⟩ | ⟨rfl, link, now⟩ | ⟨rfl, -, now⟩ | ⟨stream, rfl, link, now⟩
  · rw [same, before]
    simp [Ne.symm refused]
  · rw [link] at before
    simpa [now] using before
  · simp [now]
  · rw [link] at before
    simpa [now] using before

theorem paired_step (number stream : Nat) :
    (next.connectionAt number).link.stream? = some stream ↔
      (pairings (events ++ [event]))[stream]? = some number := by
  rw [getElem?_pairings_concat_eq_some_iff, ← ledger.paired, ← ledger.streams]
  rcases moved.link_cases number with
    ⟨same, dialled, -⟩ | ⟨rfl, link, now⟩ | ⟨rfl, link, now⟩ | ⟨stream, rfl, link, now⟩
  · simp [same, dialled]
  · simp [link, now, Link.stream?, eq_comm]
  · simp [link, now, Link.stream?]
  · simp [link, now, Link.stream?]

/-- A move is one more line of the account. -/
theorem step : Ledger (events ++ [event]) next where
  listening := by
    have before := ledger.listening
    cases moved with
    | listenerFails | drop => simp
    | _ => simpa [setConnection, setStream] using before
  accepted := by
    have before := ledger.accepted
    cases moved with
    | _ => simpa [setConnection, setStream] using before
  dials := by
    have before := ledger.dials
    cases moved with
    | accept => simp [before, List.range_succ]
    | _ => simpa [setConnection, setStream] using before
  streams := by
    have before := ledger.streams
    rw [pairings_concat]
    cases moved with
    | _ => simpa [Event.paired?, setConnection, setStream] using before
  dialling := ledger.dialling_step moved
  refused := ledger.refused_step moved
  paired := ledger.paired_step moved
  clientWrote number := by
    rw [moved.client_written, ledger.clientWrote, clientText_concat]
  remoteWrote stream := by
    rw [moved.remote_written, ledger.remoteWrote, remoteText_concat]

omit ledger moved in
/-- Every run keeps the account. -/
theorem of_run (ran : State.run {} events = some state) : Ledger events state := by
  induction events using List.reverseRecOn generalizing state with
  | nil =>
    cases ran
    exact initial
  | append_singleton events event ih =>
    obtain ⟨last, before, stepped⟩ := run_concat_eq_some_iff.1 ran
    exact (ih before).step (moves_of_step stepped)

end Ledger

end State

end Gangway.Ssh.Relay
