import Meshwork.Proofs.Station.Emissions
import Meshwork.Proofs.Station.Hearing

/-!
# Messages through a chain of relays

A message goes from one relay to the next, each of which reads the frame, spends a
hop and writes the frame anew. The header that the payload is sealed with is copied
every time, so that the node it is for opens it at the end as if it had been heard
from its source, and reads off how many relays there were.
-/

namespace Meshwork
set_option autoImplicit false

/-- What a provider has sealed, it opens. -/
def CryptoProvider.Undoes (provider : CryptoProvider) : Prop :=
  ∀ key aad text blob, Seals provider key aad text blob →
    provider.unsealText key aad blob = .ok text

theorem CryptoProvider.IsFaithful.undoes {provider : CryptoProvider} (h : provider.IsFaithful) :
    provider.Undoes := by
  rintro key aad text blob ⟨before, after, hseal⟩
  obtain ⟨blob', after', hseal', _, hopen⟩ := h.seals key aad text before
  rw [hseal] at hseal'
  cases hseal'
  exact hopen

theorem CryptoProvider.software_undoes : software.Undoes := software_isFaithful.undoes

theorem CryptoProvider.transparent_undoes : transparent.Undoes := by
  rintro key aad text blob ⟨before, after, hseal⟩
  have hblob : label key aad ++ text = blob := Except.ok.inj (congrArg Prod.fst hseal)
  change (if (label key aad).isPrefixOf blob = true then
    Except.ok (blob.drop (label key aad).length) else Except.error CryptoError.openFailed) = _
  rw [if_pos (List.isPrefixOf_iff_prefix.mpr ⟨text, hblob⟩), ← hblob, List.drop_left]

namespace Station

/-- The frames that so many routers, one after the other, have made of a first one:
each has heard the frame before and has passed it on. -/
inductive Relayed (first : Bytes) : Nat → Bytes → Prop where
  | start : Relayed first 0 first
  | hop {n : Nat} {frame next : Bytes} {s : Station} {rssi : Int16} {now : Nat} {keys : KeyRing}
      {outcome : RouteOutcome} (hbefore : Relayed first n frame)
      (hroute : (s.route frame rssi now keys).1 = .ok outcome)
      (hpasses : outcome.passesOn = true)
      (hsent : (s.route frame rssi now keys).2.radio.outbox = s.radio.outbox ++ [next]) :
      Relayed first (n + 1) next

variable {s : Station} {m p : Packet} {first frame : Bytes} {n : Nat} {keys : KeyRing} {now : Nat}

/-- A router that has passed a frame on has sent one, which makes the chain longer. -/
theorem Relayed.passed (h : Relayed first n frame) {rssi : Int16} {outcome : RouteOutcome}
    (hroute : (s.route frame rssi now keys).1 = .ok outcome) (hpasses : outcome.passesOn = true) :
    ∃ next, (s.route frame rssi now keys).2.radio.outbox = s.radio.outbox ++ [next] ∧
      Relayed first (n + 1) next := by
  obtain ⟨p, _, q, next, _, _, hradio⟩ := aired_route hroute hpasses
  have hsent : (s.route frame rssi now keys).2.radio.outbox = s.radio.outbox ++ [next] := by
    rw [hradio]
  exact ⟨next, hsent, h.hop hroute hpasses hsent⟩

/-- A frame in which every relay has spent a hop is still the same message. -/
theorem Relayed.decode (h : Relayed first n frame) (hfirst : Packet.decode first = .ok m)
    (hnew : m.hopCount = 0) :
    ∃ hops last next, hops.toNat = n ∧ Packet.decode frame = .ok (m.copy hops last next) := by
  induction h with
  | start => exact ⟨0, m.lastHop, m.nextHop, rfl, hnew ▸ hfirst⟩
  | @hop n frame next s rssi now keys outcome hbefore hroute hpasses hsent ih =>
    obtain ⟨hops, last, via, hcount, hdecode⟩ := ih
    obtain ⟨p, hheard, hair⟩ := aired_route hroute hpasses
    rw [hdecode] at hheard
    cases hheard
    obtain ⟨q, ⟨hwithin, nextHop, rfl⟩, hread⟩ := hair.decode hsent
    have hbound : hops.toNat < s.router.maxHops.toNat := UInt8.lt_iff_toNat_lt.mp hwithin
    refine ⟨hops + 1, s.router.nodeId, nextHop, ?_, hread⟩
    rw [toNat_add_one_of_lt hbound, hcount]

/-! ## Relays -/

theorem relay_passesOn (hradio : s.radio.sendFault = none) (hfits : p.Fits)
    (hwithin : p.hopCount < s.router.maxHops) (nextHop : NodeId) :
    ∃ outcome, (s.relay p nextHop).1 = .ok outcome ∧ outcome.passesOn = true := by
  rw [relay_within hradio hfits hwithin nextHop]
  simp only
  split
  · exact ⟨_, rfl, rfl⟩
  · exact ⟨_, rfl, rfl⟩

/-- A router that works and relays passes on a new packet that it is to send to
another node. -/
theorem dispatch_passesOn (hradio : s.radio.sendFault = none) (hfits : p.Fits)
    (hrelays : s.router.relayEnabled = true) (hmine : s.router.isOverheard p = false)
    (hplain : p.topic.isInclusion = false) (hone : p.isBroadcast = false)
    (haway : p.destination ≠ s.router.nodeId) (hwithin : p.hopCount < s.router.maxHops)
    (now : Nat) (keys : KeyRing) :
    ∃ outcome, (s.dispatch p now keys).1 = .ok outcome ∧ outcome.passesOn = true := by
  unfold dispatch
  rw [hplain, hone]
  simp only [Bool.false_eq_true, if_false, if_neg haway]
  rw [forward_eq hplain hone haway hmine, if_pos hrelays]
  exact relay_passesOn hradio hfits hwithin _

theorem route_passesOn (hdecode : Packet.decode frame = .ok p)
    (hradio : s.radio.sendFault = none) (hrelays : s.router.relayEnabled = true)
    (hmine : s.router.isOverheard p = false)
    (hnew : s.router.tracker.contains p.key now = false) (hother : p.source ≠ s.router.nodeId)
    (hplain : p.topic.isInclusion = false) (hone : p.isBroadcast = false)
    (haway : p.destination ≠ s.router.nodeId) (hwithin : p.hopCount < s.router.maxHops)
    (rssi : Int16) (keys : KeyRing) :
    ∃ outcome, (s.route frame rssi now keys).1 = .ok outcome ∧ outcome.passesOn = true := by
  obtain ⟨stats, _, haccept⟩ := Router.accept_eq s.router p rssi now
  rw [route_fresh hdecode hmine hnew hother rssi keys, haccept]
  exact dispatch_passesOn (s := { s with
      router := { s.router with
        tracker := s.router.tracker.record p.key now
        table := (s.router.accept p rssi now).table
        stats := stats } })
    hradio (Packet.fits_of_decode hdecode) hrelays hmine hplain hone haway hwithin now keys

/-! ## The last router -/

theorem not_isOverheard_broadcast {r : Router} (hall : p.destination = .broadcast) :
    r.isOverheard p = false := by
  unfold Router.isOverheard Packet.isBroadcast
  rw [hall]
  simp [NodeId.isBroadcast]

theorem handed_deliverUnicast {text : Bytes} (hlistens : s.router.hasHandler = true)
    (hknown : p.topic.isReserved = false)
    (hopen : keys.unsealText p.associatedData p.payload = .ok text) (now : Nat) :
    (s.deliverUnicast p now keys).2.router.handed =
      s.router.handed ++ [Delivery.ofPacket p text] := by
  obtain ⟨table, stats, _, hdeliver⟩ := deliver_eq (s := s) hlistens hknown hopen
  unfold deliverUnicast
  rw [hdeliver]
  simp only
  cases p.topic.reply? with
  | none => rfl
  | some reply =>
    simp only
    generalize hdelivered : ({ s with router := _ } : Station) = delivered
    have hquiet := quiet_originate delivered p.source reply (replyBody p reply) now keys
    have hhanded : delivered.router.handed = s.router.handed ++ [Delivery.ofPacket p text] := by
      rw [← hdelivered]
    rw [← hhanded]
    generalize delivered.originate p.source reply (replyBody p reply) now keys = answered
      at hquiet ⊢
    rcases answered with ⟨sent, answered⟩
    cases sent with
    | error e => exact hquiet.handed
    | ok id => exact hquiet.handed

theorem handed_spread {text : Bytes} (hlistens : s.router.hasHandler = true)
    (hknown : p.topic.isReserved = false)
    (hopen : keys.unsealText p.associatedData p.payload = .ok text) :
    (s.spread p keys).2.router.handed = s.router.handed ++ [Delivery.ofPacket p text] := by
  obtain ⟨table, stats, _, hdeliver⟩ := deliver_eq (s := s) hlistens hknown hopen
  unfold spread
  rw [hdeliver]
  simp only
  split
  · exact (quiet_relay _ p .broadcast).handed
  · rfl

/-- A packet that a router can open is handed over, whatever comes of the answer or
of sending it on. -/
theorem handed_dispatch {text : Bytes} (hlistens : s.router.hasHandler = true)
    (hplain : p.topic.isInclusion = false) (hknown : p.topic.isReserved = false)
    (hfor : p.destination = s.router.nodeId ∨ p.destination = .broadcast)
    (hopen : keys.unsealText p.associatedData p.payload = .ok text) (now : Nat) :
    (s.dispatch p now keys).2.router.handed = s.router.handed ++ [Delivery.ofPacket p text] := by
  unfold dispatch
  rw [hplain]
  simp only [Bool.false_eq_true, if_false]
  split
  · exact handed_deliverUnicast hlistens hknown hopen now
  · rename_i haway
    have hall : p.isBroadcast = true := by
      unfold Packet.isBroadcast
      rw [hfor.resolve_left haway]
      rfl
    rw [if_pos hall]
    exact handed_spread hlistens hknown hopen

theorem handed_route {text : Bytes} (hdecode : Packet.decode frame = .ok p)
    (hlistens : s.router.hasHandler = true) (hother : p.source ≠ s.router.nodeId)
    (hnew : s.router.tracker.contains p.key now = false) (hplain : p.topic.isInclusion = false)
    (hknown : p.topic.isReserved = false)
    (hfor : p.destination = s.router.nodeId ∨ p.destination = .broadcast)
    (hopen : keys.unsealText p.associatedData p.payload = .ok text) (rssi : Int16) :
    (s.route frame rssi now keys).2.router.handed =
      s.router.handed ++ [Delivery.ofPacket p text] := by
  have hmine : s.router.isOverheard p = false :=
    hfor.elim not_isOverheard_own not_isOverheard_broadcast
  obtain ⟨stats, _, haccept⟩ := Router.accept_eq s.router p rssi now
  rw [route_fresh hdecode hmine hnew hother rssi keys, haccept]
  exact handed_dispatch (s := { s with
      router := { s.router with
        tracker := s.router.tracker.record p.key now
        table := (s.router.accept p rssi now).table
        stats := stats } })
    hlistens hplain hknown hfor hopen now

/-- A message that one node has sent arrives whole through any chain of relays: who is
meant and can open it hands over what the source was given to send, and how many
relays it took. -/
theorem handed_of_relayed {provider : CryptoProvider} {key : MeshKey} {sender sender' : Station}
    {destination : NodeId} {topic : Topic} {text : Bytes} {time : Nat} {own : KeyRing} {id : UInt32}
    (hundoes : provider.Undoes) (hown : own.Holds provider key)
    (hplain : topic.isInclusion = false) (hknown : topic.isReserved = false)
    (hsent : sender.originate destination topic text time own = (.ok id, sender')) :
    ∃ first, sender'.radio.outbox = sender.radio.outbox ++ [first] ∧
      ∀ (n : Nat) (frame : Bytes), Relayed first n frame →
        ∀ (s : Station) (rssi : Int16) (now : Nat) (keys : KeyRing),
          s.router.nodeId ≠ sender.router.nodeId → s.router.hasHandler = true →
          keys.Holds provider key →
          s.router.tracker.contains (sender.router.nodeId, id) now = false →
          destination = s.router.nodeId ∨ destination = .broadcast →
          ∃ hops : UInt8, hops.toNat = n ∧
            (s.route frame rssi now keys).2.router.handed = s.router.handed ++
              [⟨sender.router.nodeId, destination, topic, id, hops, text⟩] := by
  rcases sender.originate_cases destination text time own hplain with
    ⟨e, hfailed, _⟩ | ⟨id', hresult, m, first, ⟨hsealed, hfor, habout, hid⟩, hencode, hradio⟩
  · rw [hsent] at hfailed
    cases hfailed
  rw [hsent] at hresult hradio
  cases hresult
  have hfirst : Packet.decode first = .ok m := Packet.decode_eq_ok_iff_encode.mpr hencode
  refine ⟨first, congrArg Radio.outbox hradio, ?_⟩
  intro n frame hrelayed s rssi now keys hother hlistens hkeys hnew haddressed
  obtain ⟨hops, last, next, hcount, hdecode⟩ := hrelayed.decode hfirst hsealed.hopCount
  have hopen : keys.unsealText m.associatedData m.payload = .ok text := by
    obtain ⟨key', hkey, hseals⟩ := hsealed.opened
    rw [hown.key] at hkey
    cases hkey
    rw [hown.provider] at hseals
    unfold KeyRing.unsealText
    rw [hkeys.key, hkeys.provider]
    simp only
    rw [hundoes _ _ _ _ hseals]
  have hsource : m.source = sender.router.nodeId := hsealed.source
  rw [← hsource, ← hid] at hnew
  have hhanded := handed_route (s := s) (p := m.copy hops last next) hdecode hlistens
    (fun h => hother (h.symm.trans hsource)) hnew (habout ▸ hplain) (habout ▸ hknown)
    (hfor ▸ haddressed) hopen rssi
  refine ⟨hops, hcount, hhanded.trans ?_⟩
  rw [← hsource, ← hfor, ← habout, ← hid]
  rfl

/-! ## One relay on the way -/

def chainKey : MeshKey := ⟨Bytes.block 32 [7]⟩

def chainKeys : KeyRing := { provider := .transparent, key := some chainKey }

/-- A router that relays, knows no routes, and has an application that listens. -/
def chainStation (node : NodeId) : Station where
  router :=
    { nodeId := node, maxHops := 7, relayEnabled := true, tracker := .create 1000 4,
      table := .create 1000 4, hasHandler := true }
  radio := {}
  draws := { source := fun _ _ => [] }

def softwareKeys : KeyRing := { provider := .software, key := some chainKey }

/-- A third node, which has no key, passes on what the first has sealed for the
second. -/
theorem handed_of_relayed_once :
    ∃ first next,
      ((chainStation ⟨1⟩).originate ⟨2⟩ (.application 0x20) [4, 2] 0 softwareKeys).2.radio.outbox =
        [first] ∧
      Relayed first 1 next ∧
      ((chainStation ⟨2⟩).route next 0 9 softwareKeys).2.router.handed =
        [⟨⟨1⟩, ⟨2⟩, .application 0x20, 0, 1, [4, 2]⟩] := by
  obtain ⟨m, after, hm, hcarries, hsent⟩ := originate_eq (s := chainStation ⟨1⟩) rfl
    (show softwareKeys.Holds .software chainKey from ⟨rfl, rfl⟩) CryptoProvider.software_isFaithful
    ⟨2⟩ (show (Topic.application 0x20).isCanonical = true from rfl) rfl
    (show [4, 2].length + CryptoProvider.sealOverhead ≤ Packet.maxPayload by decide) 0
  obtain ⟨first, hfirst, harrives⟩ := handed_of_relayed CryptoProvider.software_undoes
    ⟨rfl, rfl⟩ rfl rfl hsent
  obtain ⟨blob, rfl⟩ : ∃ blob, m =
      { (chainStation ⟨1⟩).header ⟨2⟩ (.application 0x20) with payload := blob } := ⟨_, hm⟩
  obtain rfl := (List.cons.inj hfirst).1
  obtain ⟨outcome, hroute, hpasses⟩ := route_passesOn (s := chainStation ⟨3⟩)
    (hcarries.decode 0 ⟨1⟩ .broadcast) rfl rfl rfl
    (show (chainStation ⟨3⟩).router.tracker.contains _ 5 = false from rfl)
    (show (⟨1⟩ : NodeId) ≠ ⟨3⟩ by decide) rfl rfl (show (⟨2⟩ : NodeId) ≠ ⟨3⟩ by decide)
    (show (0 : UInt8) < 7 by decide) 0 { provider := .software }
  obtain ⟨next, _, hrelayed⟩ := Relayed.start.passed hroute hpasses
  obtain ⟨hops, hcount, hhanded⟩ := harrives 1 next hrelayed (chainStation ⟨2⟩) 0 9 softwareKeys
    (by decide) rfl ⟨rfl, rfl⟩ rfl (Or.inl rfl)
  obtain rfl : hops = 1 := UInt8.toNat_inj.mp hcount
  refine ⟨_, next, ?_, hrelayed, hhanded⟩
  rw [hsent]
  exact hfirst

end Station
end Meshwork
