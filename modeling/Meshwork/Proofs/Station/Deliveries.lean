import Meshwork.Proofs.KeyRing
import Meshwork.Proofs.Station.Calls

/-!
# What a router hands to the application

A frame that is heard hands over one packet at most, and only one that opens under
the mesh key and is neither a handshake nor without a meaning. Sending and relaying
hand nothing over. A message of the node itself is sealed with a header in which
the node is the source.
-/

namespace Meshwork
set_option autoImplicit false

/-- The router is still that of the same node and has handed nothing over. -/
structure Router.Quiet (r r' : Router) : Prop where
  nodeId : r'.nodeId = r.nodeId
  handed : r'.handed = r.handed

/-- The router has opened a packet and handed over what it carries. -/
structure Router.Hands (r : Router) (p : Packet) (keys : KeyRing) (r' : Router) : Prop where
  nodeId : r'.nodeId = r.nodeId
  inclusion : p.topic.isInclusion = false
  reserved : p.topic.isReserved = false
  opened : ∃ key text, keys.key = some key ∧
    keys.provider.unsealText key p.associatedData p.payload = .ok text ∧
    r'.handed = r.handed ++ [Delivery.ofPacket p text]

namespace Router

variable {r r' r'' : Router} {p : Packet} {keys : KeyRing}

theorem Quiet.refl (r : Router) : r.Quiet r := ⟨rfl, rfl⟩

theorem Quiet.trans (h : r.Quiet r') (h' : r'.Quiet r'') : r.Quiet r'' :=
  ⟨h'.nodeId.trans h.nodeId, h'.handed.trans h.handed⟩

/-- What matters of a router is its node and what it has handed over. -/
theorem Quiet.of_eq (h : r.Quiet r') (hnode : r''.nodeId = r.nodeId)
    (hhanded : r''.handed = r.handed) : r''.Quiet r' :=
  ⟨h.nodeId.trans hnode.symm, h.handed.trans hhanded.symm⟩

theorem Quiet.hands (h : r.Quiet r') (h' : r'.Hands p keys r'') : r.Hands p keys r'' := by
  obtain ⟨key, text, hkey, hopen, hhanded⟩ := h'.opened
  rw [h.handed] at hhanded
  exact ⟨h'.nodeId.trans h.nodeId, h'.inclusion, h'.reserved, key, text, hkey, hopen, hhanded⟩

theorem Hands.quiet (h : r.Hands p keys r') (h' : r'.Quiet r'') : r.Hands p keys r'' := by
  obtain ⟨key, text, hkey, hopen, hhanded⟩ := h.opened
  exact ⟨h'.nodeId.trans h.nodeId, h.inclusion, h.reserved, key, text, hkey, hopen,
    h'.handed.trans hhanded⟩

/-! ## Screening -/

theorem quiet_offer (r : Router) (destination nextHop : NodeId) (hopCount : UInt8) (rssi : Int16)
    (now : Nat) : r.Quiet (r.offer destination nextHop hopCount rssi now) := by
  unfold offer
  split <;> exact ⟨rfl, rfl⟩

theorem quiet_learn (r : Router) (p : Packet) (rssi : Int16) (now : Nat) :
    r.Quiet (r.learn p rssi now) := by
  have hsource : r.Quiet (r.learnSource p rssi now) := by
    unfold learnSource
    split
    · exact quiet_offer r _ _ _ rssi now
    · exact Quiet.refl r
  unfold learn learnRelay
  split
  · exact hsource.trans (quiet_offer _ _ _ _ rssi now)
  · exact hsource

theorem quiet_screenPacket (r : Router) (p : Packet) (rssi : Int16) (now : Nat) :
    r.Quiet (r.screenPacket p rssi now).2 := by
  unfold screenPacket overhear
  split
  · simp only
    split
    · exact quiet_learn r p rssi now
    · exact Quiet.refl r
  · split
    · exact ⟨rfl, rfl⟩
    · simp only
      split
      · exact ⟨rfl, rfl⟩
      · exact (quiet_learn _ p rssi now).of_eq rfl rfl

theorem quiet_screen (r : Router) (frame : Bytes) (rssi : Int16) (now : Nat) :
    r.Quiet (r.screen frame rssi now).2 := by
  unfold screen
  cases Packet.decode frame with
  | error e => exact ⟨rfl, rfl⟩
  | ok p => exact (quiet_screenPacket _ p rssi now).of_eq rfl rfl

/-! ## Delivering -/

theorem quiet_heedBye (r : Router) (p : Packet) : r.Quiet (r.heedBye p) := by
  unfold heedBye
  split <;> exact ⟨rfl, rfl⟩

theorem deliver_cases (r : Router) (keys : KeyRing) (htopic : p.topic.isInclusion = false) :
    r.Quiet (r.deliver p keys).2 ∨ r.Hands p keys (r.deliver p keys).2 := by
  unfold deliver
  cases hreserved : p.topic.isReserved with
  | true => exact Or.inl (Quiet.refl r)
  | false =>
    simp only [Bool.false_eq_true, if_false]
    cases hopen : keys.unsealText p.associatedData p.payload with
    | error e => exact Or.inl ⟨rfl, rfl⟩
    | ok text =>
      obtain ⟨key, hkey, hopen⟩ := KeyRing.unsealText_eq_ok hopen
      have hbye := r.quiet_heedBye p
      simp only [hand]
      cases (r.heedBye p).hasHandler with
      | false => exact Or.inl (hbye.trans ⟨rfl, rfl⟩)
      | true =>
        right
        exact ⟨hbye.nodeId, htopic, hreserved, key, text, hkey, hopen,
          congrArg (· ++ [Delivery.ofPacket p text]) hbye.handed⟩

end Router

namespace Station

variable {s : Station} {p : Packet} {keys : KeyRing}

/-! ## Sending -/

theorem quiet_send (s : Station) (frame : Bytes) : s.router.Quiet (s.send frame).2.router := by
  unfold send
  split <;> exact ⟨rfl, rfl⟩

theorem quiet_transmit (s : Station) (p : Packet) (now : Nat) :
    s.router.Quiet (s.transmit p now).2.router := by
  unfold transmit
  cases (s.address p).encode with
  | error e => exact Router.Quiet.refl _
  | ok frame =>
    have hsend := quiet_send (s.record p now) frame
    have hsent : s.router.Quiet ((s.record p now).send frame).2.router := hsend.of_eq rfl rfl
    simp only
    generalize (s.record p now).send frame = sent at hsent ⊢
    rcases sent with ⟨result, sent⟩
    cases result with
    | error e => exact hsent
    | ok done => exact hsent

theorem quiet_originate (s : Station) (destination : NodeId) (topic : Topic) (payload : Bytes)
    (now : Nat) (keys : KeyRing) :
    s.router.Quiet (s.originate destination topic payload now keys).2.router := by
  have hcompose := compose_router s destination topic payload keys
  unfold originate
  generalize s.compose destination topic payload keys = composed at hcompose ⊢
  rcases composed with ⟨result, composed⟩
  change composed.router = s.router at hcompose
  rw [← hcompose]
  cases result with
  | error e => exact Router.Quiet.refl _
  | ok p => exact quiet_transmit composed p now

theorem quiet_relay (s : Station) (p : Packet) (nextHop : NodeId) :
    s.router.Quiet (s.relay p nextHop).2.router := by
  unfold relay
  cases p.spendHop s.router.maxHops with
  | error e => exact ⟨rfl, rfl⟩
  | ok spent =>
    simp only
    cases ({ spent with lastHop := s.router.nodeId, nextHop := nextHop } : Packet).encode with
    | error e => exact Router.Quiet.refl _
    | ok frame =>
      have hsend := quiet_send s frame
      simp only
      generalize s.send frame = sent at hsend ⊢
      rcases sent with ⟨result, sent⟩
      cases result with
      | error e => exact hsend
      | ok done =>
        simp only
        split
        · exact ⟨hsend.nodeId, hsend.handed⟩
        · exact ⟨hsend.nodeId, hsend.handed⟩

theorem quiet_forward (s : Station) (p : Packet) : s.router.Quiet (s.forward p).2.router := by
  unfold forward
  split
  · exact Router.Quiet.refl _
  · split
    · exact Router.Quiet.refl _
    · exact quiet_relay s p _

/-! ## Dispatching -/

theorem deliverUnicast_cases (s : Station) (now : Nat) (keys : KeyRing)
    (htopic : p.topic.isInclusion = false) :
    s.router.Quiet (s.deliverUnicast p now keys).2.router ∨
      s.router.Hands p keys (s.deliverUnicast p now keys).2.router := by
  have hdeliver := s.router.deliver_cases keys htopic
  unfold deliverUnicast deliver
  generalize s.router.deliver p keys = delivered at hdeliver ⊢
  rcases delivered with ⟨result, router⟩
  cases result with
  | error reason => exact hdeliver
  | ok done =>
    simp only
    cases p.topic.reply? with
    | none => exact hdeliver
    | some reply =>
      have hanswer := quiet_originate { s with router := router } p.source reply (replyBody p reply)
        now keys
      simp only
      generalize originate { s with router := router } p.source reply (replyBody p reply) now
        keys = answered at hanswer ⊢
      have hafter := hdeliver.imp (·.trans hanswer) (·.quiet hanswer)
      rcases answered with ⟨sent, answered⟩
      cases sent with
      | error e => exact hafter
      | ok id => exact hafter

theorem spread_cases (s : Station) (keys : KeyRing) (htopic : p.topic.isInclusion = false) :
    s.router.Quiet (s.spread p keys).2.router ∨
      s.router.Hands p keys (s.spread p keys).2.router := by
  have hdeliver := s.router.deliver_cases keys htopic
  unfold spread deliver
  generalize s.router.deliver p keys = delivered at hdeliver ⊢
  rcases delivered with ⟨result, router⟩
  simp only
  split
  · have hrelay := quiet_relay { s with router := router } p .broadcast
    exact hdeliver.imp (·.trans hrelay) (·.quiet hrelay)
  · cases result with
    | error reason => exact hdeliver
    | ok done => exact hdeliver

/-- One packet at most is handed over, and only if it is this one. -/
theorem dispatch_cases (s : Station) (p : Packet) (now : Nat) (keys : KeyRing) :
    s.router.Quiet (s.dispatch p now keys).2.router ∨
      s.router.Hands p keys (s.dispatch p now keys).2.router := by
  unfold dispatch
  cases htopic : p.topic.isInclusion with
  | true => exact Or.inl (Router.Quiet.refl _)
  | false =>
    simp only [Bool.false_eq_true, if_false]
    split
    · exact deliverUnicast_cases s now keys htopic
    · split
      · exact spread_cases s keys htopic
      · exact Or.inl (quiet_forward s p)

end Station
end Meshwork
