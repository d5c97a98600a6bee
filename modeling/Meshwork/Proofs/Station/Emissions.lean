import Meshwork.Proofs.Device.Messages
import Meshwork.Proofs.Station.Working

/-!
# What a station puts on the air

Two things leave a station: a message of its own, which is sealed unless it belongs
to a handshake, and a packet of another node that is on its way to somebody else. A
packet goes on only where relaying is switched on, and only while it has hops left.
-/

namespace Meshwork
set_option autoImplicit false

namespace Packet

/-- A message for the mesh as the node that makes it sends it, sealed with its own
header under the key of the node. -/
structure SealedBy (node : NodeId) (keys : KeyRing) (text : Bytes) (q : Packet) : Prop extends
    MadeBy node q where
  canonical : q.topic.isCanonical = true
  plain : q.topic.isInclusion = false
  opened : ∃ key, keys.key = some key ∧ Seals keys.provider key q.associatedData text q.payload

/-- A packet that is for others, as a router that relays sends it on. -/
structure Passing (r : Router) (p q : Packet) : Prop extends PassedOn r.nodeId r.maxHops p q where
  plain : p.topic.isInclusion = false
  away : p.destination ≠ r.nodeId
  relays : r.relayEnabled = true

end Packet

namespace RouteOutcome

/-- Whether a frame has been sent on. -/
def passesOn : RouteOutcome → Bool
  | forwarded _ => true
  | rebroadcast => true
  | deliveredLocally => false
  | dropped _ => false

end RouteOutcome

namespace Station

variable {s s' : Station} {P Q : Packet → Prop} {p : Packet} {keys : KeyRing} {now : Nat}

/-- One frame has gone on the air, of a packet with this property. -/
def Aired (P : Packet → Prop) (s s' : Station) : Prop :=
  ∃ q frame, P q ∧ q.encode = .ok frame ∧
    s'.radio = { s.radio with outbox := s.radio.outbox ++ [frame] }

theorem Aired.airs (h : Aired P s s') : Airs P s s' := by
  obtain ⟨q, frame, hpacket, hencode, hradio⟩ := h
  exact .aired q frame hpacket hencode hradio

theorem Aired.mono (h : Aired P s s') (hPQ : ∀ q, P q → Q q) : Aired Q s s' := by
  obtain ⟨q, frame, hpacket, hencode, hradio⟩ := h
  exact ⟨q, frame, hPQ q hpacket, hencode, hradio⟩

/-- What has gone on the air reads as the packet that was sent. -/
theorem Aired.decode {frame : Bytes} (h : Aired P s s')
    (hsent : s'.radio.outbox = s.radio.outbox ++ [frame]) :
    ∃ q, P q ∧ Packet.decode frame = .ok q := by
  obtain ⟨q, sent, hpacket, hencode, hradio⟩ := h
  rw [hradio] at hsent
  have hframe : [sent] = [frame] := List.append_cancel_left hsent
  cases hframe
  exact ⟨q, hpacket, Packet.decode_eq_ok_iff_encode.mpr hencode⟩

/-! ## Messages of the station -/

theorem transmit_cases (s : Station) (p : Packet) (now : Nat) :
    (∃ e, (s.transmit p now).1 = .error e ∧ (s.transmit p now).2.radio = s.radio) ∨
      (s.transmit p now).1 = .ok p.packetId ∧ Aired (· = s.address p) s (s.transmit p now).2 := by
  unfold transmit
  cases hencode : (s.address p).encode with
  | error e => exact Or.inl ⟨_, rfl, rfl⟩
  | ok frame =>
    simp only
    rcases (s.record p now).send_cases frame with ⟨e, _, h⟩ | ⟨_, h⟩
    · rw [h]
      exact Or.inl ⟨_, rfl, rfl⟩
    · rw [h]
      exact Or.inr ⟨rfl, _, frame, rfl, hencode, rfl⟩

/-- A message for the mesh goes on the air sealed, or not at all. -/
theorem originate_cases (s : Station) (destination : NodeId) {topic : Topic} (payload : Bytes)
    (now : Nat) (keys : KeyRing) (hplain : topic.isInclusion = false) :
    (∃ e, (s.originate destination topic payload now keys).1 = .error e ∧
      (s.originate destination topic payload now keys).2.radio = s.radio) ∨
    ∃ id, (s.originate destination topic payload now keys).1 = .ok id ∧
      Aired (fun q => q.SealedBy s.router.nodeId keys payload ∧ q.destination = destination ∧
        q.topic = topic ∧ q.packetId = id) s
        (s.originate destination topic payload now keys).2 := by
  have hcomposed : ∀ p, (s.compose destination topic payload keys).1 = .ok p →
      s.Composed destination topic payload keys p := fun _ => composed
  unfold originate
  rcases s.compose_cases destination topic payload keys with
    ⟨e, draws, h⟩ | ⟨id, blob, draws, h⟩
  · rw [h]
    exact Or.inl ⟨e, rfl, rfl⟩
  · rw [h] at hcomposed ⊢
    generalize hp : ({ Packet.fresh s.router.nodeId destination topic [] id with
      payload := blob } : Packet) = p at hcomposed ⊢
    have hmessage := hcomposed p rfl
    simp only
    rcases transmit_cases { s with draws := draws } p now with
      ⟨e, hresult, hradio⟩ | ⟨hresult, hair⟩
    · exact Or.inl ⟨e, hresult, hradio⟩
    · refine Or.inr ⟨p.packetId, hresult, hair.mono ?_⟩
      rintro q rfl
      have hmade : (address { s with draws := draws } p).MadeBy s.router.nodeId := by
        rw [← hp]
        exact ⟨rfl, rfl, rfl⟩
      have hplain : p.topic.isInclusion = false := hmessage.topic ▸ hplain
      exact ⟨⟨hmade, hmessage.canonical, hplain, hmessage.opened hplain⟩, hmessage.destination,
        hmessage.topic, rfl⟩

theorem airs_originate_sealed (s : Station) (destination : NodeId) {topic : Topic} (payload : Bytes)
    (now : Nat) (keys : KeyRing) (hplain : topic.isInclusion = false) :
    Airs (·.SealedBy s.router.nodeId keys payload) s
      (s.originate destination topic payload now keys).2 := by
  rcases s.originate_cases destination payload now keys hplain with ⟨_, _, hradio⟩ | ⟨_, _, hair⟩
  · exact .silent hradio
  · exact (hair.mono fun _ hq => hq.1).airs

/-! ## Packets on their way -/

theorem aired_relay {nextHop : NodeId} {outcome : RouteOutcome}
    (h : (s.relay p nextHop).1 = .ok outcome) (hpasses : outcome.passesOn = true) :
    Aired (p.PassedOn s.router.nodeId s.router.maxHops) s (s.relay p nextHop).2 := by
  unfold relay at h ⊢
  rcases spendHop_cases p s.router.maxHops with ⟨_, hspend⟩ | ⟨hwithin, hspend⟩
  · rw [hspend] at h
    cases h
    cases hpasses
  rw [hspend] at h ⊢
  simp only at h ⊢
  split at h
  · cases h
  rename_i frame hencode
  rcases s.send_cases frame with ⟨e, _, hsend⟩ | ⟨_, hsend⟩
  · rw [hsend] at h
    cases h
  · rw [hsend]
    simp only
    split
    · exact ⟨_, frame, ⟨hwithin, nextHop, rfl⟩, hencode, rfl⟩
    · exact ⟨_, frame, ⟨hwithin, nextHop, rfl⟩, hencode, rfl⟩

theorem deliverUnicast_stops {outcome : RouteOutcome}
    (h : (s.deliverUnicast p now keys).1 = .ok outcome) : outcome.passesOn = false := by
  unfold deliverUnicast at h
  generalize s.deliver p keys = delivered at h
  rcases delivered with ⟨result, delivered⟩
  cases result with
  | error reason =>
    cases h
    rfl
  | ok done =>
    simp only at h
    cases hreply : p.topic.reply? with
    | none =>
      rw [hreply] at h
      cases h
      rfl
    | some reply =>
      rw [hreply] at h
      simp only at h
      generalize delivered.originate _ _ _ _ _ = answered at h
      rcases answered with ⟨sent, answered⟩
      cases sent with
      | error e => cases h
      | ok id =>
        cases h
        rfl

theorem aired_spread {outcome : RouteOutcome} (h : (s.spread p keys).1 = .ok outcome)
    (hpasses : outcome.passesOn = true) :
    Aired (p.PassedOn s.router.nodeId s.router.maxHops) s (s.spread p keys).2 := by
  have hradio := s.deliver_radio p keys
  have hrouter := s.forgets_deliver p keys
  unfold spread at h ⊢
  generalize s.deliver p keys = delivered at h hradio hrouter ⊢
  rcases delivered with ⟨result, delivered⟩
  change delivered.radio = s.radio at hradio
  simp only at h hrouter ⊢
  split at h
  · rename_i hrelays
    obtain ⟨q, frame, hpacket, hencode, hsent⟩ := aired_relay h hpasses
    rw [hrouter.nodeId, hrouter.maxHops] at hpacket
    rw [hradio] at hsent
    rw [if_pos hrelays]
    exact ⟨q, frame, hpacket, hencode, hsent⟩
  · cases result with
    | error reason =>
      cases h
      cases hpasses
    | ok done =>
      cases h
      cases hpasses

theorem aired_forward {outcome : RouteOutcome} (h : (s.forward p).1 = .ok outcome)
    (hpasses : outcome.passesOn = true) :
    Aired (p.PassedOn s.router.nodeId s.router.maxHops) s (s.forward p).2 := by
  unfold forward at h ⊢
  split at h
  · cases h
    cases hpasses
  rename_i hmine
  split at h
  · cases h
    cases hpasses
  rename_i hrelays
  rw [if_neg hmine, if_neg hrelays]
  exact aired_relay h hpasses

theorem aired_dispatch {outcome : RouteOutcome} (h : (s.dispatch p now keys).1 = .ok outcome)
    (hpasses : outcome.passesOn = true) :
    Aired (p.PassedOn s.router.nodeId s.router.maxHops) s (s.dispatch p now keys).2 := by
  unfold dispatch at h ⊢
  split at h
  · cases h
    cases hpasses
  rename_i hplain
  rw [if_neg hplain]
  split at h
  · rw [deliverUnicast_stops h] at hpasses
    cases hpasses
  rename_i haway
  rw [if_neg haway]
  split at h
  · rename_i hall
    rw [if_pos hall]
    exact aired_spread h hpasses
  · rename_i hone
    rw [if_neg hone]
    exact aired_forward h hpasses

/-- A router that answers that it has passed a frame on has sent the packet that it
heard, one hop on. -/
theorem aired_route {frame : Bytes} {rssi : Int16} {outcome : RouteOutcome}
    (h : (s.route frame rssi now keys).1 = .ok outcome) (hpasses : outcome.passesOn = true) :
    ∃ p, Packet.decode frame = .ok p ∧
      Aired (p.PassedOn s.router.nodeId s.router.maxHops) s (s.route frame rssi now keys).2 := by
  have halike := s.router.alike_screen frame rssi now
  unfold route at h ⊢
  rcases hscreen : s.router.screen frame rssi now with ⟨result, router⟩
  rw [hscreen] at h halike
  cases result with
  | error reason =>
    cases h
    cases hpasses
  | ok p =>
    obtain ⟨hdecode, _⟩ := Router.screen_eq_ok_iff.mp (congrArg Prod.fst hscreen)
    have hair := aired_dispatch h hpasses
    rw [halike.nodeId, halike.maxHops] at hair
    exact ⟨p, hdecode, hair⟩

/-! ## All that goes on the air -/

theorem airs_deliverUnicast_sealed (s : Station) (p : Packet) (now : Nat) (keys : KeyRing) :
    Airs (fun q => ∃ text, q.SealedBy s.router.nodeId keys text) s
      (s.deliverUnicast p now keys).2 := by
  have hradio := s.deliver_radio p keys
  have hnode := (s.forgets_deliver p keys).nodeId
  unfold deliverUnicast
  generalize s.deliver p keys = delivered at hradio hnode ⊢
  rcases delivered with ⟨result, delivered⟩
  change delivered.radio = s.radio at hradio
  cases result with
  | error reason => exact .silent hradio
  | ok done =>
    simp only
    cases hreply : p.topic.reply? with
    | none => exact .silent hradio
    | some reply =>
      have hanswer := delivered.airs_originate_sealed p.source (replyBody p reply) now keys
        (reply_isPlain hreply).2
      rw [hnode] at hanswer
      replace hanswer : Airs (fun q => ∃ text, q.SealedBy s.router.nodeId keys text) s
          (delivered.originate p.source reply (replyBody p reply) now keys).2 :=
        (hanswer.of_radio hradio.symm).mono fun q hq => ⟨replyBody p reply, hq⟩
      simp only
      generalize delivered.originate p.source reply (replyBody p reply) now keys = answered
        at hanswer ⊢
      rcases answered with ⟨sent, answered⟩
      cases sent with
      | error e => exact hanswer
      | ok id => exact hanswer

theorem airs_spread_passing (s : Station) (keys : KeyRing) (hplain : p.topic.isInclusion = false)
    (haway : p.destination ≠ s.router.nodeId) :
    Airs (p.Passing s.router) s (s.spread p keys).2 := by
  have hradio := s.deliver_radio p keys
  have hrouter := s.forgets_deliver p keys
  unfold spread
  generalize s.deliver p keys = delivered at hradio hrouter ⊢
  rcases delivered with ⟨result, delivered⟩
  change delivered.radio = s.radio at hradio
  simp only at hrouter ⊢
  split
  · rename_i hrelays
    have hair := delivered.airs_relay p .broadcast
    rw [hrouter.nodeId, hrouter.maxHops] at hair
    rw [hrouter.relayEnabled] at hrelays
    exact (hair.of_radio hradio.symm).mono fun q hq => ⟨hq, hplain, haway, hrelays⟩
  · cases result with
    | error reason => exact .silent hradio
    | ok done => exact .silent hradio

theorem airs_forward_passing (s : Station) (hplain : p.topic.isInclusion = false)
    (haway : p.destination ≠ s.router.nodeId) :
    Airs (p.Passing s.router) s (s.forward p).2 := by
  unfold forward
  split
  · exact .silent rfl
  · split
    · exact .silent rfl
    · rename_i hrelays
      have hrelays : s.router.relayEnabled = true := by simpa using hrelays
      exact (s.airs_relay p _).mono fun q hq => ⟨hq, hplain, haway, hrelays⟩

/-- Whatever packet passes the screen, only a sealed answer to it goes on the air, or
the packet itself on its way to others. -/
theorem airs_dispatch (s : Station) (p : Packet) (now : Nat) (keys : KeyRing) :
    Airs (fun q => (∃ text, q.SealedBy s.router.nodeId keys text) ∨ p.Passing s.router q) s
      (s.dispatch p now keys).2 := by
  unfold dispatch
  cases hplain : p.topic.isInclusion with
  | true => exact .silent rfl
  | false =>
    simp only [Bool.false_eq_true, if_false]
    split
    · exact (s.airs_deliverUnicast_sealed p now keys).mono fun _ => Or.inl
    rename_i haway
    split
    · exact (s.airs_spread_passing keys hplain haway).mono fun _ => Or.inr
    · exact (s.airs_forward_passing hplain haway).mono fun _ => Or.inr

end Station
end Meshwork
