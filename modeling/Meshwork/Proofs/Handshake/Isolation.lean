import Meshwork.Proofs.Handshake.Completion
import Meshwork.Proofs.Handshake.Ledger
import Meshwork.Proofs.Handshake.Refusals

/-!
# Handshakes beside each other

A hub is in the middle of many handshakes at once. Whatever a message does, and however
it fails, it does to its sender: the session of everybody else, whether they are members
and what is queued about them stay. A device that one hub has answered does not listen to
another.
-/

namespace Meshwork
set_option autoImplicit false

namespace Inclusion

/-- What is queued about a peer, in order. -/
def eventsOf (c : Inclusion) (peer : NodeId) : List InclusionEvent :=
  c.events.filter (·.peer == peer)

/-- What a hub has to do with this peer is as it was. -/
structure Spares (peer : NodeId) (c c' : Inclusion) : Prop where
  session : c'.session? peer = c.session? peer
  member : peer ∈ c'.included ↔ peer ∈ c.included
  events : c'.eventsOf peer = c.eventsOf peer

variable {c c' : Inclusion} {peer other : NodeId} {more : List InclusionEvent}

theorem Spares.refl (peer : NodeId) (c : Inclusion) : Spares peer c c :=
  ⟨rfl, Iff.rfl, rfl⟩

/-- Results about other peers may have been queued. -/
theorem eventsOf_append (hevents : c'.events = c.events ++ more)
    (hmore : ∀ event ∈ more, event.peer ≠ peer) : c'.eventsOf peer = c.eventsOf peer := by
  have hnone : more.filter (·.peer == peer) = [] := by
    refine List.filter_eq_nil_iff.mpr fun event hevent => ?_
    rw [beq_iff_eq]
    exact hmore event hevent
  rw [eventsOf, hevents, List.filter_append, hnone, List.append_nil]
  rfl

theorem spares_failPeer (c : Inclusion) (reason : InclusionError) (h : peer ≠ other) :
    Spares peer c (c.failPeer other reason) where
  session := session?_failPeer_ne c reason h
  member := by rw [failPeer_included]
  events := by
    rcases c.failPeer_events other reason with hsame | hqueued
    · rw [eventsOf, hsame]
      rfl
    · refine eventsOf_append hqueued fun event hevent => ?_
      rw [List.mem_singleton.mp hevent]
      exact h.symm

theorem spares_putSession (c : Inclusion) (session : Session) (h : peer ≠ other) :
    Spares peer c (c.putSession other session) :=
  ⟨session?_putSession_ne c session h, Iff.rfl, rfl⟩

/-- Striking one node out leaves the others in. -/
theorem mem_filter_ne {members : List NodeId} (h : peer ≠ other) :
    peer ∈ members.filter (· != other) ↔ peer ∈ members := by
  rw [List.mem_filter, bne_iff_ne]
  exact and_iff_left h

theorem spares_takeIn (c : Inclusion) (h : peer ≠ other) :
    Spares peer c (Party.takeIn c other) where
  session := session?_takeIn_ne c h
  member := by
    change peer ∈ other :: c.included.filter (· != other) ↔ peer ∈ c.included
    rw [List.mem_cons, or_iff_right h]
    exact mem_filter_ne h
  events := by
    refine eventsOf_append rfl fun event hevent => ?_
    rw [List.mem_singleton.mp hevent]
    exact h.symm

end Inclusion

namespace Party

variable {s s' : Party} {p : Packet} {now : UInt64} {peer : NodeId} {config : Config}
variable {result : Except InclusionError (Option Packet)}

/-- A party without a handshake of its own has to do with the sender only. -/
theorem Handled.spares (h : Handled s p now result s') (hown : s.inclusion.own = none)
    (hpeer : peer ≠ p.source) : s.inclusion.Spares peer s'.inclusion := by
  cases h with
  | refused e draws => exact .refl peer s.inclusion
  | peerFailed e draws session hsession => exact s.inclusion.spares_failPeer e hpeer
  | ownFailed e draws session hsome =>
    rw [hown] at hsome
    cases hsome
  | opened draws session peerKey peerNonce bootstrap =>
    exact ⟨Inclusion.session?_putSession_ne _ _ hpeer, Inclusion.mem_filter_ne hpeer, rfl⟩
  | confirmed draws session => exact s.inclusion.spares_putSession _ hpeer
  | completed => exact s.inclusion.spares_takeIn hpeer
  | answered draws session hubKey hubNonce bootstrap reply htopic haddressed hsome =>
    rw [hown] at hsome
    cases hsome
  | joined draws session bootstrap key keys result htopic haddressed hsome =>
    rw [hown] at hsome
    cases hsome

/-- A device whose hub is known refuses everybody else, and nothing comes of it. -/
theorem Handled.ignored (h : Handled s p now result s') (hs : s.inclusion.Shaped)
    {session : Session} (hown : s.inclusion.own = some session)
    (hnamed : session.peer.isBroadcast = false) (hother : session.peer ≠ p.source) :
    (∃ e, result = .error e) ∧ Untouched s s' := by
  have hrole : s.inclusion.role ≠ .hub := by
    rw [hs.role_of_own hown]
    decide
  have hstranger : ∀ old : Session, s.inclusion.own = some old →
      ¬(old.peer.isBroadcast = true ∨ old.peer = p.source) := by
    rintro old hold (hall | hsame)
    · rw [hown] at hold
      cases hold
      rw [hnamed] at hall
      cases hall
    · rw [hown] at hold
      cases hold
      exact hother hsame
  cases h with
  | refused e draws => exact ⟨⟨e, rfl⟩, rfl, rfl⟩
  | peerFailed e draws old hsession => exact absurd (hs.role_of_session hsession) hrole
  | ownFailed e draws old hold hpeer => exact absurd hpeer (hstranger old hold)
  | opened draws old peerKey peerNonce bootstrap reply htopic hhub => exact absurd hhub hrole
  | confirmed draws old bootstrap key reply htopic haddressed hsession =>
    exact absurd (hs.role_of_session hsession) hrole
  | completed old key htopic haddressed hsession =>
    exact absurd (hs.role_of_session hsession) hrole
  | answered draws old hubKey hubNonce bootstrap reply htopic haddressed hold hpeer =>
    exact absurd hpeer (hstranger old hold)
  | joined draws old bootstrap key keys result htopic haddressed hold hpeer =>
    exact absurd hpeer (hstranger old hold)

/-- Whatever has happened to a party before: a message that a hub handles changes neither
its mesh key nor whether it takes requests, and nothing that it has to do with anybody but
the sender. A device that waits for a hub refuses messages of all others, and its
handshake, its key and its queue are as they were. -/
theorem handle_isolated (hs : Reachable config s) (p : Packet) (now : UInt64) :
    (s.inclusion.role = .hub →
      (s.handle p now).2.keys = s.keys ∧
        (s.handle p now).2.inclusion.accepting = s.inclusion.accepting ∧
        ∀ peer, peer ≠ p.source → s.inclusion.Spares peer (s.handle p now).2.inclusion) ∧
      ∀ session, s.inclusion.own = some session → session.peer.isBroadcast = false →
        session.peer ≠ p.source →
          (∃ e, (s.handle p now).1 = .error e) ∧ Untouched s (s.handle p now).2 := by
  have hhandled := s.handled p now
  refine ⟨fun hrole => ?_, fun session hown hnamed hother => ?_⟩
  · have hnone : s.inclusion.own = none := hs.shaped.hub hrole
    exact ⟨hhandled.keys_of_own_none hnone, hhandled.accepting,
      fun peer hpeer => hhandled.spares hnone hpeer⟩
  · exact hhandled.ignored hs.shaped hown hnamed hother

/-- A request that reaches a hub while it waits for somebody else. -/
def strangeRequest : Packet :=
  .fresh ⟨2⟩ .broadcast .includeRequest (List.replicate Inclusion.offerLength 0) 0

/-- What the hub of a device would have said, from another node. -/
def strangeConfirmation : Packet := { mutedConfirmation with source := ⟨7⟩ }

theorem handle_isolated_strangers :
    ((busyHub.handle strangeRequest 9).2.inclusion.hasSession ⟨2⟩ = true ∧
      busyHub.inclusion.hasSession ⟨3⟩ = true ∧
      busyHub.inclusion.Spares ⟨3⟩ (busyHub.handle strangeRequest 9).2.inclusion) ∧
    mutedParty.inclusion.ownPeerIs ⟨1⟩ = true ∧
      Untouched mutedParty (mutedParty.handle strangeConfirmation 2).2 := by
  obtain ⟨hhub, _⟩ := handle_isolated busyHub_reachable strangeRequest 9
  obtain ⟨_, _, hspares⟩ := hhub rfl
  obtain ⟨_, hdevice⟩ := handle_isolated mutedParty_reachable strangeConfirmation 2
  obtain ⟨own, hown, hpeer⟩ : ∃ own, mutedParty.inclusion.own = some own ∧ own.peer = ⟨1⟩ :=
    ⟨_, rfl, rfl⟩
  obtain ⟨_, huntouched⟩ := hdevice own hown (by rw [hpeer]; rfl) (by rw [hpeer]; decide)
  exact ⟨⟨by decide +kernel, by decide +kernel, hspares ⟨3⟩ (by decide)⟩, by decide +kernel,
    huntouched⟩

end Party
end Meshwork
