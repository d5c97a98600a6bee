import Meshwork.Proofs.Handshake.Steps
import Meshwork.Proofs.Packet.Codec
import Meshwork.Proofs.Router.Learning
import Meshwork.Proofs.Station.Calls

/-!
# What a call does to a router and to the air

No call changes what a router is set up with, and nothing but a screened frame
teaches it routes. One frame at most goes on the air in a call: a message that the
node makes itself, or the packet that it has heard, one hop on.
-/

namespace Meshwork
set_option autoImplicit false

/-- A packet as the node that makes it sends it. -/
structure Packet.MadeBy (node : NodeId) (q : Packet) : Prop where
  source : q.source = node
  lastHop : q.lastHop = node
  hopCount : q.hopCount = 0

/-- A packet as a relay sends it on. -/
structure Packet.PassedOn (node : NodeId) (maxHops : UInt8) (p q : Packet) : Prop where
  within : p.hopCount < maxHops
  same : ∃ nextHop, q =
    { p with hopCount := p.hopCount + 1, lastHop := node, nextHop := nextHop }

theorem Packet.PassedOn.toNat_hopCount {node : NodeId} {maxHops : UInt8} {p q : Packet}
    (h : p.PassedOn node maxHops q) : q.hopCount.toNat = p.hopCount.toNat + 1 := by
  obtain ⟨nextHop, rfl⟩ := h.same
  exact toNat_add_one_of_lt (UInt8.lt_iff_toNat_lt.mp h.within)

namespace Station

/-- Nothing has happened to the radio but that a frame may have gone on the air,
of a packet with this property. -/
inductive Airs (P : Packet → Prop) (s s' : Station) : Prop where
  | silent (hradio : s'.radio = s.radio)
  | aired (q : Packet) (frame : Bytes) (hpacket : P q) (hencode : q.encode = .ok frame)
      (hradio : s'.radio = { s.radio with outbox := s.radio.outbox ++ [frame] })

variable {s s' s'' : Station} {P Q : Packet → Prop} {p : Packet} {keys : KeyRing} {now : Nat}

theorem Airs.mono (h : Airs P s s') (hPQ : ∀ q, P q → Q q) : Airs Q s s' := by
  cases h with
  | silent hradio => exact .silent hradio
  | aired q frame hpacket hencode hradio => exact .aired q frame (hPQ q hpacket) hencode hradio

/-- Only radios matter. -/
theorem Airs.of_radio (h : Airs P s s') (hradio : s''.radio = s.radio) : Airs P s'' s' := by
  cases h with
  | silent hsame => exact .silent (hsame.trans hradio.symm)
  | aired q frame hpacket hencode hsame =>
    exact .aired q frame hpacket hencode (by rw [hsame, hradio])

/-! ## Sending -/

theorem send_cases (s : Station) (frame : Bytes) :
    (∃ e, s.radio.sendFault = some e ∧ s.send frame = (.error (.radio e), s)) ∨
      s.radio.sendFault = none ∧ s.send frame = (.ok (),
        { s with
          radio := { s.radio with outbox := s.radio.outbox ++ [frame] }
          router.stats.sent := s.router.stats.sent + 1 }) := by
  have hradio : (∃ e, s.radio.sendFault = some e ∧ s.radio.send frame = .error e) ∨
      s.radio.sendFault = none ∧
        s.radio.send frame = .ok { s.radio with outbox := s.radio.outbox ++ [frame] } := by
    unfold Radio.send
    split
    · rename_i e hfault
      exact Or.inl ⟨e, hfault, rfl⟩
    · rename_i hfault
      exact Or.inr ⟨hfault, rfl⟩
  unfold send
  rcases hradio with ⟨e, hfault, h⟩ | ⟨hfault, h⟩
  · rw [h]
    exact Or.inl ⟨e, hfault, rfl⟩
  · rw [h]
    exact Or.inr ⟨hfault, rfl⟩

theorem forgets_send (s : Station) (frame : Bytes) :
    s.router.Forgets (s.send frame).2.router := by
  rcases s.send_cases frame with ⟨e, _, h⟩ | ⟨_, h⟩
  · rw [h]
    exact Router.Forgets.refl _
  · rw [h]
    exact ⟨⟨rfl, rfl, rfl, rfl, rfl, rfl, id, [], rfl⟩, fun _ he => he⟩

theorem forgets_transmit (s : Station) (p : Packet) (now : Nat) :
    s.router.Forgets (s.transmit p now).2.router := by
  have hrecord : s.router.Forgets (s.record p now).router :=
    ⟨⟨rfl, rfl, rfl, rfl, rfl, rfl, id, [.observe p.key now], rfl⟩, fun _ he => he⟩
  unfold transmit
  cases (s.address p).encode with
  | error e => exact Router.Forgets.refl _
  | ok frame =>
    have hsent := hrecord.trans (forgets_send (s.record p now) frame)
    simp only
    generalize (s.record p now).send frame = sent at hsent ⊢
    rcases sent with ⟨result, sent⟩
    cases result with
    | error e => exact hsent
    | ok done => exact hsent

theorem airs_transmit (s : Station) (p : Packet) (now : Nat) :
    Airs (· = s.address p) s (s.transmit p now).2 := by
  unfold transmit
  cases hencode : (s.address p).encode with
  | error e => exact .silent rfl
  | ok frame =>
    simp only
    rcases (s.record p now).send_cases frame with ⟨e, _, h⟩ | ⟨_, h⟩
    · rw [h]
      exact .silent rfl
    · rw [h]
      exact .aired _ frame rfl hencode rfl

theorem compose_cases (s : Station) (destination : NodeId) (topic : Topic) (payload : Bytes)
    (keys : KeyRing) :
    (∃ e draws, s.compose destination topic payload keys = (.error e, { s with draws := draws })) ∨
      ∃ id blob draws, s.compose destination topic payload keys =
        (.ok { Packet.fresh s.router.nodeId destination topic [] id with payload := blob },
          { s with draws := draws }) := by
  unfold compose
  rcases Packet.create_cases s.router.nodeId destination topic [] s.draws with
    ⟨e, hcreate⟩ | ⟨id, draws, hcreate⟩
  · rw [hcreate]
    exact Or.inl ⟨_, _, rfl⟩
  · rw [hcreate]
    simp only
    rcases sealPayload _ payload keys draws with ⟨result, after⟩
    cases result with
    | error e => exact Or.inl ⟨e, after, rfl⟩
    | ok blob =>
      simp only
      split
      · exact Or.inl ⟨_, after, rfl⟩
      · exact Or.inr ⟨id, blob, after, rfl⟩

theorem forgets_originate (s : Station) (destination : NodeId) (topic : Topic) (payload : Bytes)
    (now : Nat) (keys : KeyRing) :
    s.router.Forgets (s.originate destination topic payload now keys).2.router := by
  unfold originate
  rcases s.compose_cases destination topic payload keys with
    ⟨e, draws, h⟩ | ⟨id, blob, draws, h⟩
  · rw [h]
    exact Router.Forgets.refl _
  · rw [h]
    exact forgets_transmit { s with draws := draws } _ now

theorem airs_originate (s : Station) (destination : NodeId) (topic : Topic) (payload : Bytes)
    (now : Nat) (keys : KeyRing) :
    Airs (·.MadeBy s.router.nodeId) s (s.originate destination topic payload now keys).2 := by
  unfold originate
  rcases s.compose_cases destination topic payload keys with
    ⟨e, draws, h⟩ | ⟨id, blob, draws, h⟩
  · rw [h]
    exact .silent rfl
  · rw [h]
    let p := { Packet.fresh s.router.nodeId destination topic [] id with payload := blob }
    have hair : Airs (· = s.address p) s (transmit { s with draws := draws } p now).2 :=
      (airs_transmit { s with draws := draws } p now).of_radio rfl
    exact hair.mono fun q hq => hq ▸ ⟨rfl, rfl, rfl⟩

/-! ## Relaying -/

theorem spendHop_cases (p : Packet) (limit : UInt8) :
    (limit ≤ p.hopCount ∧ p.spendHop limit = .error (.maxHops p.hopCount limit)) ∨
      (p.hopCount < limit ∧ p.spendHop limit = .ok { p with hopCount := p.hopCount + 1 }) := by
  unfold Packet.spendHop Packet.isAtMaxHops
  by_cases h : limit ≤ p.hopCount
  · exact Or.inl ⟨h, if_pos (decide_eq_true h)⟩
  · exact Or.inr ⟨UInt8.not_le.mp h, if_neg (by simpa using h)⟩

theorem forgets_relay (s : Station) (p : Packet) (nextHop : NodeId) :
    s.router.Forgets (s.relay p nextHop).2.router := by
  have hstats : ∀ (r : Router) (stats : MeshStats), s.router.Forgets r →
      s.router.Forgets { r with stats := stats } :=
    fun r stats h => h.trans ⟨⟨rfl, rfl, rfl, rfl, rfl, rfl, id, [], rfl⟩, fun _ he => he⟩
  unfold relay
  split
  · exact hstats _ _ (Router.Forgets.refl _)
  · split
    · exact Router.Forgets.refl _
    · rename_i frame _
      have hsend := s.forgets_send frame
      generalize s.send frame = sent at hsend ⊢
      rcases sent with ⟨result, sent⟩
      cases result with
      | error e => exact hsend
      | ok done =>
        simp only
        split
        · exact hstats _ _ hsend
        · exact hstats _ _ hsend

/-- A relay sends the packet with nothing changed but the hop fields. -/
theorem airs_relay_to (s : Station) (p : Packet) (nextHop : NodeId) :
    Airs (fun q => p.hopCount < s.router.maxHops ∧
      q = { p with hopCount := p.hopCount + 1, lastHop := s.router.nodeId, nextHop := nextHop })
      s (s.relay p nextHop).2 := by
  unfold relay
  rcases spendHop_cases p s.router.maxHops with ⟨_, h⟩ | ⟨hwithin, h⟩
  · rw [h]
    exact .silent rfl
  · rw [h]
    simp only
    split
    · exact .silent rfl
    · rename_i frame hencode
      rcases s.send_cases frame with ⟨e, _, hsend⟩ | ⟨_, hsend⟩
      · rw [hsend]
        exact .silent rfl
      · rw [hsend]
        simp only
        split
        · exact .aired _ frame ⟨hwithin, rfl⟩ hencode rfl
        · exact .aired _ frame ⟨hwithin, rfl⟩ hencode rfl

theorem airs_relay (s : Station) (p : Packet) (nextHop : NodeId) :
    Airs (p.PassedOn s.router.nodeId s.router.maxHops) s (s.relay p nextHop).2 :=
  (s.airs_relay_to p nextHop).mono fun _ h => ⟨h.1, nextHop, h.2⟩

theorem airs_forward (s : Station) (p : Packet) :
    Airs (p.PassedOn s.router.nodeId s.router.maxHops) s (s.forward p).2 := by
  unfold forward
  split
  · exact .silent rfl
  · split
    · exact .silent rfl
    · exact s.airs_relay p _

/-! ## Delivering and dispatching -/

theorem forgets_deliver (s : Station) (p : Packet) (keys : KeyRing) :
    s.router.Forgets (s.deliver p keys).2.router := by
  have hsame : ∀ (r : Router), r.tracker = s.router.tracker → r.table = s.router.table →
      r.nodeId = s.router.nodeId → r.maxHops = s.router.maxHops →
      r.relayEnabled = s.router.relayEnabled → r.hasHandler = s.router.hasHandler →
      s.router.Forgets r := by
    intro r htracker htable hnode hhops hrelay hhandler
    exact ⟨⟨hnode, hhops, hrelay, hhandler, by rw [htable], by rw [htable],
      fun h => htable ▸ h, [], htracker⟩,
      fun _ he => htable ▸ he⟩
  unfold deliver Router.deliver
  simp only
  split
  · exact Router.Forgets.refl _
  · split
    · exact hsame _ rfl rfl rfl rfl rfl rfl
    · simp only [Router.hand, Router.heedBye]
      split
      · exact ⟨⟨rfl, rfl, rfl, rfl, rfl, rfl, fun h => h.remove p.source, [], rfl⟩,
          fun _ => RouteTable.mem_of_mem_remove⟩
      · exact hsame _ rfl rfl rfl rfl rfl rfl

theorem deliver_radio (s : Station) (p : Packet) (keys : KeyRing) :
    (s.deliver p keys).2.radio = s.radio :=
  rfl

/-- What a station does with a packet that has passed the screen. -/
structure Serves (s : Station) (p : Packet) (s' : Station) : Prop where
  router : s.router.Forgets s'.router
  air : Airs (fun q => q.MadeBy s.router.nodeId ∨
    p.PassedOn s.router.nodeId s.router.maxHops q) s s'

theorem Serves.refl (s : Station) (p : Packet) : s.Serves p s :=
  ⟨Router.Forgets.refl _, .silent rfl⟩

theorem serves_relay (s : Station) (p : Packet) (nextHop : NodeId) :
    s.Serves p (s.relay p nextHop).2 :=
  ⟨s.forgets_relay p nextHop, (s.airs_relay p nextHop).mono fun _ => Or.inr⟩

/-- A delivery comes before what else is done, and leaves the radio alone. -/
theorem Serves.after_deliver (h : (s.deliver p keys).2.Serves p s') : s.Serves p s' := by
  have hdeliver := s.forgets_deliver p keys
  refine ⟨hdeliver.trans h.router, (h.air.of_radio (deliver_radio s p keys).symm).mono ?_⟩
  rw [hdeliver.nodeId, hdeliver.maxHops]
  exact fun q hq => hq

theorem serves_deliverUnicast (s : Station) (p : Packet) (now : Nat) (keys : KeyRing) :
    s.Serves p (s.deliverUnicast p now keys).2 := by
  have hafter : ∀ s', (s.deliver p keys).2.Serves p s' → s.Serves p s' :=
    fun _ h => h.after_deliver
  unfold deliverUnicast
  generalize s.deliver p keys = delivered at hafter ⊢
  rcases delivered with ⟨result, delivered⟩
  apply hafter
  cases result with
  | error reason => exact Serves.refl _ p
  | ok done =>
    simp only
    cases p.topic.reply? with
    | none => exact Serves.refl _ p
    | some reply =>
      have hanswer : delivered.Serves p
          (delivered.originate p.source reply (replyBody p reply) now keys).2 :=
        ⟨forgets_originate _ _ _ _ _ _, (airs_originate _ _ _ _ _ _).mono fun _ => Or.inl⟩
      simp only
      generalize delivered.originate p.source reply (replyBody p reply) now keys = answered
        at hanswer ⊢
      rcases answered with ⟨sent, answered⟩
      cases sent with
      | error e => exact hanswer
      | ok id => exact hanswer

theorem serves_spread (s : Station) (p : Packet) (keys : KeyRing) :
    s.Serves p (s.spread p keys).2 := by
  have hafter : ∀ s', (s.deliver p keys).2.Serves p s' → s.Serves p s' :=
    fun _ h => h.after_deliver
  unfold spread
  generalize s.deliver p keys = delivered at hafter ⊢
  rcases delivered with ⟨result, delivered⟩
  apply hafter
  simp only
  split
  · exact serves_relay delivered p .broadcast
  · cases result with
    | error reason => exact Serves.refl _ p
    | ok done => exact Serves.refl _ p

theorem serves_forward (s : Station) (p : Packet) : s.Serves p (s.forward p).2 := by
  unfold forward
  split
  · exact Serves.refl s p
  · split
    · exact Serves.refl s p
    · exact serves_relay s p _

theorem serves_dispatch (s : Station) (p : Packet) (now : Nat) (keys : KeyRing) :
    s.Serves p (s.dispatch p now keys).2 := by
  unfold dispatch
  split
  · exact Serves.refl s p
  · split
    · exact serves_deliverUnicast s p now keys
    · split
      · exact serves_spread s p keys
      · exact serves_forward s p

/-! ## Calls -/

/-- A frame is dropped by the screen, or what passes it is served. -/
theorem route_cases (s : Station) (frame : Bytes) (rssi : Int16) (now : Nat) (keys : KeyRing) :
    (s.route frame rssi now keys).2 = { s with router := (s.router.screen frame rssi now).2 } ∨
      ∃ p, (s.router.screen frame rssi now).1 = .ok p ∧
        Serves { s with router := (s.router.screen frame rssi now).2 } p
          (s.route frame rssi now keys).2 := by
  unfold route
  rcases s.router.screen frame rssi now with ⟨result, router⟩
  cases result with
  | error reason => exact Or.inl rfl
  | ok p => exact Or.inr ⟨p, rfl, serves_dispatch _ p now keys⟩

theorem alike_route (s : Station) (frame : Bytes) (rssi : Int16) (now : Nat) (keys : KeyRing) :
    s.router.Alike (s.route frame rssi now keys).2.router := by
  have hscreen := s.router.alike_screen frame rssi now
  rcases s.route_cases frame rssi now keys with h | ⟨p, _, h⟩
  · rw [h]
    exact hscreen
  · exact hscreen.trans h.router.toAlike

theorem alike_perform (s : Station) (call : Call) : s.router.Alike (call.perform s).router := by
  cases call with
  | route frame rssi now keys => exact s.alike_route frame rssi now keys
  | originate destination topic payload now keys => exact (s.forgets_originate ..).toAlike
  | sweep now => exact (s.router.forgets_sweep now).toAlike
  | air radio => exact Router.Alike.refl _

theorem alike_run (s : Station) (calls : List Call) : s.router.Alike (s.run calls).router := by
  induction calls generalizing s with
  | nil => exact Router.Alike.refl _
  | cons call calls ih => exact (s.alike_perform call).trans (ih (call.perform s))

/-- The frames that go on the air in a call. -/
def Call.aired (s : Station) : Station.Call → List Bytes
  | .air _ => []
  | call => (call.perform s).radio.outbox.drop s.radio.outbox.length

theorem mem_aired_of_airs {frame : Bytes} (h : Airs P s s')
    (hmem : frame ∈ s'.radio.outbox.drop s.radio.outbox.length) :
    ∃ q, P q ∧ q.encode = .ok frame := by
  cases h with
  | silent hradio =>
    rw [hradio, List.drop_length] at hmem
    cases hmem
  | aired q sent hpacket hencode hradio =>
    rw [hradio] at hmem
    change frame ∈ (s.radio.outbox ++ [sent]).drop s.radio.outbox.length at hmem
    rw [List.drop_left, List.mem_singleton] at hmem
    exact ⟨q, hpacket, hmem ▸ hencode⟩

/-- A frame on the air is a message of the node, or what the node has heard of another
one, one hop on. -/
theorem aired_cases {call : Call} {frame : Bytes} (h : frame ∈ call.aired s) :
    ∃ q, q.encode = .ok frame ∧ (q.MadeBy s.router.nodeId ∨
      ∃ heard rssi now keys p, call = .route heard rssi now keys ∧ Packet.decode heard = .ok p ∧
        p.source ≠ s.router.nodeId ∧ p.PassedOn s.router.nodeId s.router.maxHops q) := by
  cases call with
  | route heard rssi now keys =>
    change frame ∈ (s.route heard rssi now keys).2.radio.outbox.drop s.radio.outbox.length at h
    have halike := s.router.alike_screen heard rssi now
    rcases s.route_cases heard rssi now keys with hdropped | ⟨p, hscreen, hserves⟩
    · rw [hdropped, List.drop_length] at h
      cases h
    · obtain ⟨q, hq, hencode⟩ := mem_aired_of_airs hserves.air h
      rw [halike.nodeId, halike.maxHops] at hq
      refine ⟨q, hencode, hq.imp_right ?_⟩
      intro hpassed
      obtain ⟨hdecode, _, _, hsource⟩ := Router.screen_eq_ok_iff.mp hscreen
      exact ⟨heard, rssi, now, keys, p, rfl, hdecode, hsource, hpassed⟩
  | originate destination topic payload now keys =>
    obtain ⟨q, hq, hencode⟩ :=
      mem_aired_of_airs (s.airs_originate destination topic payload now keys) h
    exact ⟨q, hencode, Or.inl hq⟩
  | sweep now =>
    change frame ∈ s.radio.outbox.drop s.radio.outbox.length at h
    rw [List.drop_length] at h
    cases h
  | air radio => cases h

/-- A route that is new after a call was taught by the frame that is heard in it. -/
theorem teaches_of_mem_perform {call : Call} {e : Route}
    (h : e ∈ (call.perform s).router.table.routes) :
    (∃ frame rssi now keys p, call = .route frame rssi now keys ∧
      Packet.decode frame = .ok p ∧ p.source ≠ s.router.nodeId ∧
      Teaches s.router.nodeId s.router.maxHops p e) ∨ e ∈ s.router.table.routes := by
  cases call with
  | route frame rssi now keys =>
    have hscreened : e ∈ (s.router.screen frame rssi now).2.table.routes := by
      change e ∈ (s.route frame rssi now keys).2.router.table.routes at h
      rcases s.route_cases frame rssi now keys with hsame | ⟨p, _, hserves⟩
      · rw [hsame] at h
        exact h
      · exact hserves.router.routes h
    rcases Router.teaches_of_mem_screen hscreened with ⟨p, hdecode, hother, hteaches⟩ | hbefore
    · exact Or.inl ⟨frame, rssi, now, keys, p, rfl, hdecode, hother, hteaches⟩
    · exact Or.inr hbefore
  | originate destination topic payload now keys =>
    exact Or.inr ((s.forgets_originate destination topic payload now keys).routes h)
  | sweep now => exact Or.inr ((s.router.forgets_sweep now).routes h)
  | air radio => exact Or.inr h

end Station
end Meshwork
