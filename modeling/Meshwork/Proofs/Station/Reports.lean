import Meshwork.Proofs.Router.Verdicts
import Meshwork.Proofs.Station.Chains
import Meshwork.Proofs.Station.Emissions

/-!
# What a router reports

A frame goes through the screen, is delivered, sent on or both, and may be answered; each
of these writes its own counters. What they come to is told here against the one outcome
that is reported for the frame.
-/

namespace Meshwork
set_option autoImplicit false

/-- What can be seen of the handling of a frame: the frames that were sent, what was
handed to the application, and by how much the counters of outcomes have gone up. -/
@[ext] structure Effect where
  sent : List Bytes := []
  handed : List Delivery := []
  forwarded : Nat := 0
  rebroadcast : Nat := 0
  spent : Nat := 0

namespace Effect

instance : Append Effect where
  append e e' :=
    { sent := e.sent ++ e'.sent
      handed := e.handed ++ e'.handed
      forwarded := e.forwarded + e'.forwarded
      rebroadcast := e.rebroadcast + e'.rebroadcast
      spent := e.spent + e'.spent }

/-- What is handed over first and what is done next. -/
theorem handed_append (deliveries : List Delivery) (e : Effect) :
    ({ handed := deliveries } : Effect) ++ e = { e with handed := deliveries ++ e.handed } := by
  apply Effect.ext
  · rfl
  · rfl
  · exact Nat.zero_add e.forwarded
  · exact Nat.zero_add e.rebroadcast
  · exact Nat.zero_add e.spent

theorem nil_append (e : Effect) : ({} : Effect) ++ e = e :=
  handed_append [] e

end Effect

namespace Packet

variable {p : Packet} {node : NodeId} {keys : KeyRing} {reply : Topic}

/-- There is nothing in the packet for an application, whoever it is for. -/
def IsClosed (p : Packet) (keys : KeyRing) : Prop :=
  p.topic.isReserved = true ∨ ∀ text, keys.unsealText p.associatedData p.payload ≠ .ok text

/-- What is handed over of a packet that goes on: of one for everybody what it holds, if it
holds anything. -/
inductive HandedInPassing (p : Packet) (keys : KeyRing) : List Delivery → Prop where
  | other (hone : p.isBroadcast = false) : HandedInPassing p keys []
  | closed (hclosed : p.IsClosed keys) : HandedInPassing p keys []
  | opened (hall : p.isBroadcast = true) (hknown : p.topic.isReserved = false) (text : Bytes)
      (hopen : keys.unsealText p.associatedData p.payload = .ok text) :
      HandedInPassing p keys [Delivery.ofPacket p text]

/-- The answers to a packet that was delivered: one, sealed and to the source of the
packet, if it asks this node alone for one. -/
inductive Answered (p : Packet) (node : NodeId) (keys : KeyRing) : List Packet → Prop where
  | silent (hidle : p.isBroadcast = true ∨ p.topic ≠ .ping ∧ p.topic ≠ .cmd) :
      Answered p node keys []
  | pong (q : Packet) (hone : p.isBroadcast = false) (hasked : p.topic = .ping)
      (htopic : q.topic = .pong) (hback : q.destination = p.source) (hfits : q.Fits)
      (hsealed : q.SealedBy node keys []) : Answered p node keys [q]
  | ack (q : Packet) (hone : p.isBroadcast = false) (hasked : p.topic = .cmd)
      (htopic : q.topic = .ack) (hback : q.destination = p.source) (hfits : q.Fits)
      (hsealed : q.SealedBy node keys (Bytes.bigEndian 4 p.packetId.toNat)) :
      Answered p node keys [q]

theorem Answered.of_reply (hreply : p.topic.reply? = some reply) (hone : p.isBroadcast = false)
    {q : Packet} (htopic : q.topic = reply) (hback : q.destination = p.source) (hfits : q.Fits)
    (hsealed : q.SealedBy node keys (Station.replyBody p reply)) : p.Answered node keys [q] := by
  cases hasked : p.topic with
  | ping =>
    rw [hasked] at hreply
    cases hreply
    exact .pong q hone hasked htopic hback hfits hsealed
  | cmd =>
    rw [hasked] at hreply
    cases hreply
    exact .ack q hone hasked htopic hback hfits hsealed
  | _ =>
    rw [hasked] at hreply
    cases hreply

theorem Answered.of_none (hnone : p.topic.reply? = none) : p.Answered node keys [] := by
  refine .silent (Or.inr ⟨?_, ?_⟩)
  · intro hasked
    rw [hasked] at hnone
    cases hnone
  · intro hasked
    rw [hasked] at hnone
    cases hnone

/-- The outcomes for a packet that has passed the screen of a node, and what the node has
done then. -/
inductive Handled (p : Packet) (node : NodeId) (maxHops : UInt8) (relays : Bool)
    (keys : KeyRing) : RouteOutcome → Effect → Prop where
  | handshake (hinclusion : p.topic.isInclusion = true) :
      Handled p node maxHops relays keys (.dropped .handshakeTopic) {}
  | meaningless (hown : p.destination = node) (hreserved : p.topic.isReserved = true) :
      Handled p node maxHops relays keys (.dropped .unsupportedTopic) {}
  | unopened (hown : p.destination = node)
      (hclosed : ∀ text, keys.unsealText p.associatedData p.payload ≠ .ok text) :
      Handled p node maxHops relays keys (.dropped .unauthenticated) {}
  | delivered (hfor : p.destination = node ∨ p.isBroadcast = true ∧ relays = false)
      (hknown : p.topic.isReserved = false) (text : Bytes)
      (hopen : keys.unsealText p.associatedData p.payload = .ok text)
      (answers : List Packet) (hanswers : p.Answered node keys answers) :
      Handled p node maxHops relays keys .deliveredLocally
        { sent := answers.map Packet.frame, handed := [Delivery.ofPacket p text] }
  | disabled (haway : p.destination ≠ node) (hoff : relays = false)
      (hclosed : p.isBroadcast = true → p.IsClosed keys) :
      Handled p node maxHops relays keys (.dropped .relayDisabled) {}
  | spent (haway : p.destination ≠ node) (hon : relays = true) (hspent : maxHops ≤ p.hopCount)
      (deliveries : List Delivery) (hhanded : p.HandedInPassing keys deliveries) :
      Handled p node maxHops relays keys (.dropped .maxHops) { handed := deliveries, spent := 1 }
  | forwarded (haway : p.destination ≠ node) (hon : relays = true)
      (hwithin : p.hopCount < maxHops) (hone : p.isBroadcast = false) (n : NodeId)
      (hnext : n.isBroadcast = false) :
      Handled p node maxHops relays keys (.forwarded n)
        { sent := [(p.copy (p.hopCount + 1) node n).frame], forwarded := 1 }
  | rebroadcast (haway : p.destination ≠ node) (hon : relays = true)
      (hwithin : p.hopCount < maxHops) (deliveries : List Delivery)
      (hhanded : p.HandedInPassing keys deliveries) :
      Handled p node maxHops relays keys .rebroadcast
        { sent := [(p.copy (p.hopCount + 1) node .broadcast).frame]
          handed := deliveries
          rebroadcast := 1 }

end Packet

/-- The outcomes for a frame: it is refused, with nothing done, or handled. -/
inductive Router.Reports (r : Router) (keys : KeyRing) (frame : Bytes) (rssi : Int16)
    (now : Nat) : RouteOutcome → Effect → Prop where
  | refused (reason : DropReason) (hreason : reason ≠ .maxHops) (after : Router)
      (hscreened : r.Screened frame rssi now (.error reason, after)) :
      Reports r keys frame rssi now (.dropped reason) {}
  | handled (p : Packet) (after : Router) (hscreened : r.Screened frame rssi now (.ok p, after))
      (outcome : RouteOutcome) (e : Effect)
      (hhandled : p.Handled r.nodeId r.maxHops r.relayEnabled keys outcome e) :
      Reports r keys frame rssi now outcome e

namespace Station

/-- The station has done this, and besides that it has changed its notes only. -/
structure Does (s : Station) (e : Effect) (s' : Station) : Prop where
  nodeId : s'.router.nodeId = s.router.nodeId
  maxHops : s'.router.maxHops = s.router.maxHops
  relayEnabled : s'.router.relayEnabled = s.router.relayEnabled
  hasHandler : s'.router.hasHandler = s.router.hasHandler
  radio : s'.radio = { s.radio with outbox := s.radio.outbox ++ e.sent }
  handed : s'.router.handed = s.router.handed ++ e.handed
  sent : s'.router.stats.sent = s.router.stats.sent + e.sent.length
  delivered : s'.router.stats.delivered = s.router.stats.delivered + e.handed.length
  forwarded : s'.router.stats.forwarded = s.router.stats.forwarded + e.forwarded
  rebroadcast : s'.router.stats.rebroadcast = s.router.stats.rebroadcast + e.rebroadcast
  spent : s'.router.stats.hopLimitExceeded = s.router.stats.hopLimitExceeded + e.spent

variable {s s' s'' : Station} {e e' : Effect} {p : Packet} {keys : KeyRing} {now : Nat}
variable {outcome : RouteOutcome}

theorem Does.sendFault (h : s.Does e s') : s'.radio.sendFault = s.radio.sendFault := by
  rw [h.radio]

theorem Does.trans (h : s.Does e s') (h' : s'.Does e' s'') : s.Does (e ++ e') s'' where
  nodeId := h'.nodeId.trans h.nodeId
  maxHops := h'.maxHops.trans h.maxHops
  relayEnabled := h'.relayEnabled.trans h.relayEnabled
  hasHandler := h'.hasHandler.trans h.hasHandler
  radio := by
    rw [h'.radio, h.radio, List.append_assoc]
    rfl
  handed := by
    rw [h'.handed, h.handed, List.append_assoc]
    rfl
  sent := by
    rw [h'.sent, h.sent, Nat.add_assoc, ← List.length_append]
    rfl
  delivered := by
    rw [h'.delivered, h.delivered, Nat.add_assoc, ← List.length_append]
    rfl
  forwarded := by
    rw [h'.forwarded, h.forwarded, Nat.add_assoc]
    rfl
  rebroadcast := by
    rw [h'.rebroadcast, h.rebroadcast, Nat.add_assoc]
    rfl
  spent := by
    rw [h'.spent, h.spent, Nat.add_assoc]
    rfl

/-- Notes on what was heard are not counted. -/
theorem does_nothing (s : Station) {tracker : DuplicateTracker} {table : RouteTable}
    {received duplicates corrupted unauthenticated learned : Nat} {draws : Draws} :
    s.Does {} { s with
      draws := draws
      router := { s.router with
        tracker := tracker
        table := table
        stats := { s.router.stats with
          received := received
          duplicates := duplicates
          corrupted := corrupted
          unauthenticated := unauthenticated
          learned := learned } } } where
  nodeId := rfl
  maxHops := rfl
  relayEnabled := rfl
  hasHandler := rfl
  radio := by rw [List.append_nil]
  handed := (List.append_nil _).symm
  sent := rfl
  delivered := rfl
  forwarded := rfl
  rebroadcast := rfl
  spent := rfl

theorem Does.refl (s : Station) : s.Does {} s :=
  s.does_nothing

/-! ## Stages -/

theorem does_screen (s : Station) (frame : Bytes) (rssi : Int16) (now : Nat) :
    s.Does {} { s with router := (s.router.screen frame rssi now).2 } := by
  have hscreened := s.router.screened frame rssi now
  generalize s.router.screen frame rssi now = result at hscreened ⊢
  cases hscreened with
  | damaged error hdecode => exact s.does_nothing
  | overheard p hdecode hpassing =>
    obtain ⟨learned, h⟩ := Router.overhear_eq
      { s.router with stats.received := s.router.stats.received + 1 } p rssi now
    rw [h]
    exact s.does_nothing
  | duplicate p hdecode hmine hknown => exact s.does_nothing
  | echo p hdecode hmine hnew hown => exact s.does_nothing
  | passed p hdecode hmine hnew hother =>
    obtain ⟨stats, ⟨learned, hstats⟩, h⟩ := s.router.accept_eq p rssi now
    rw [h, hstats]
    exact s.does_nothing

/-- What delivering a packet comes to. -/
inductive Delivers (p : Packet) (keys : KeyRing) : Except DropReason Unit → Effect → Prop where
  | meaningless (hreserved : p.topic.isReserved = true) :
      Delivers p keys (.error .unsupportedTopic) {}
  | unopened (hclosed : ∀ text, keys.unsealText p.associatedData p.payload ≠ .ok text) :
      Delivers p keys (.error .unauthenticated) {}
  | opened (hknown : p.topic.isReserved = false) (text : Bytes)
      (hopen : keys.unsealText p.associatedData p.payload = .ok text) :
      Delivers p keys (.ok ()) { handed := [Delivery.ofPacket p text] }

theorem does_deliver (hlistens : s.router.hasHandler = true) (p : Packet) (keys : KeyRing) :
    ∃ e, Delivers p keys (s.deliver p keys).1 e ∧ s.Does e (s.deliver p keys).2 := by
  cases hknown : p.topic.isReserved with
  | true =>
    have h : s.deliver p keys = (.error .unsupportedTopic, s) := by
      unfold deliver Router.deliver
      rw [hknown]
      rfl
    rw [h]
    exact ⟨{}, .meaningless hknown, Does.refl s⟩
  | false =>
    cases hopen : keys.unsealText p.associatedData p.payload with
    | error reason =>
      have h : s.deliver p keys = (.error .unauthenticated,
          { s with router.stats.unauthenticated := s.router.stats.unauthenticated + 1 }) := by
        unfold deliver Router.deliver
        rw [hknown, hopen]
        rfl
      rw [h]
      exact ⟨{}, .unopened (by rw [hopen]; exact nofun), s.does_nothing⟩
    | ok text =>
      obtain ⟨table, _, h⟩ := deliver_opened hlistens hknown hopen
      rw [h]
      refine ⟨_, .opened hknown text hopen, rfl, rfl, rfl, rfl, ?_, rfl, rfl, rfl, rfl, rfl, rfl⟩
      rw [List.append_nil]

/-- What relaying a packet comes to. -/
inductive Relays (s : Station) (p : Packet) (nextHop : NodeId) : RouteOutcome → Effect → Prop where
  | forwarded (hwithin : p.hopCount < s.router.maxHops) (hone : nextHop.isBroadcast = false) :
      Relays s p nextHop (.forwarded nextHop)
        { sent := [(p.copy (p.hopCount + 1) s.router.nodeId nextHop).frame], forwarded := 1 }
  | rebroadcast (hwithin : p.hopCount < s.router.maxHops) (hall : nextHop = .broadcast) :
      Relays s p nextHop .rebroadcast
        { sent := [(p.copy (p.hopCount + 1) s.router.nodeId .broadcast).frame], rebroadcast := 1 }
  | spent (hspent : s.router.maxHops ≤ p.hopCount) :
      Relays s p nextHop (.dropped .maxHops) { spent := 1 }

theorem Relays.handed {nextHop : NodeId} (h : s.Relays p nextHop outcome e) : e.handed = [] := by
  cases h with
  | forwarded | rebroadcast | spent => rfl

theorem does_relay (hradio : s.radio.sendFault = none) (hfits : p.Fits) (nextHop : NodeId) :
    ∃ outcome e, (s.relay p nextHop).1 = .ok outcome ∧ s.Relays p nextHop outcome e ∧
      s.Does e (s.relay p nextHop).2 := by
  by_cases hwithin : p.hopCount < s.router.maxHops
  · rw [relay_within hradio hfits hwithin nextHop]
    simp only
    cases hall : nextHop.isBroadcast with
    | true =>
      have hbroadcast : nextHop = .broadcast := by simpa [NodeId.isBroadcast] using hall
      refine ⟨_, _, rfl, .rebroadcast hwithin hbroadcast, rfl, rfl, rfl, rfl, ?_, ?_, rfl, rfl,
        rfl, rfl, rfl⟩
      · rw [hbroadcast]
        rfl
      · exact (List.append_nil _).symm
    | false =>
      refine ⟨_, _, rfl, .forwarded hwithin hall, rfl, rfl, rfl, rfl, rfl, ?_, rfl, rfl, rfl, rfl,
        rfl⟩
      exact (List.append_nil _).symm
  · rw [relay_spent (UInt8.not_lt.mp hwithin) nextHop]
    refine ⟨_, _, rfl, .spent (UInt8.not_lt.mp hwithin), rfl, rfl, rfl, rfl, ?_, ?_, rfl, rfl,
      rfl, rfl, rfl⟩
    · rw [List.append_nil]
    · exact (List.append_nil _).symm

/-- A short message of a station with a key is sealed and sent. -/
theorem does_originate {key : MeshKey} {topic : Topic} {payload : Bytes}
    (hradio : s.radio.sendFault = none) (hseals : keys.provider.SealsAll)
    (hkey : keys.key = some key) (destination : NodeId) (hcanonical : topic.isCanonical = true)
    (hplain : topic.isInclusion = false)
    (hshort : payload.length + CryptoProvider.sealOverhead ≤ Packet.maxPayload) (now : Nat) :
    ∃ (id : UInt32) (q : Packet),
      (s.originate destination topic payload now keys).1 = .ok id ∧ q.topic = topic ∧
        q.destination = destination ∧ q.Fits ∧ q.SealedBy s.router.nodeId keys payload ∧
        s.Does { sent := [q.frame] } (s.originate destination topic payload now keys).2 := by
  obtain ⟨m, after, hsent⟩ :=
    originate_sealed hradio hseals hkey destination hcanonical hplain hshort now
  rcases s.originate_cases destination payload now keys hplain with
    ⟨error, herror, _⟩ | ⟨id, hid, q, frame, ⟨hsealed, hto, habout, _⟩, hencode, hair⟩
  · rw [hsent] at herror
    cases herror
  · obtain ⟨hcanonical, hpayload, hframe⟩ := Packet.encode_eq_ok_iff.mp hencode
    refine ⟨id, q, hid, habout, hto, ⟨hcanonical, hpayload⟩, hsealed, ?_⟩
    rw [hframe] at hair
    rw [hsent] at hair ⊢
    exact ⟨rfl, rfl, rfl, rfl, hair, (List.append_nil _).symm, rfl, rfl, rfl, rfl, rfl⟩

/-! ## Dispatching -/

theorem handled_deliverUnicast (hlistens : s.router.hasHandler = true)
    (hradio : s.radio.sendFault = none) (hseals : keys.provider.SealsAll)
    (hown : p.destination = s.router.nodeId) (hone : p.isBroadcast = false) (now : Nat) :
    ∃ outcome e, (s.deliverUnicast p now keys).1 = .ok outcome ∧
      p.Handled s.router.nodeId s.router.maxHops s.router.relayEnabled keys outcome e ∧
      s.Does e (s.deliverUnicast p now keys).2 := by
  have hkey := @key_of_deliver s p keys
  obtain ⟨e, hdelivers, hdoes⟩ := does_deliver hlistens p keys
  unfold deliverUnicast
  generalize s.deliver p keys = delivered at hkey hdelivers hdoes ⊢
  rcases delivered with ⟨result, delivered⟩
  cases hdelivers with
  | meaningless hreserved => exact ⟨_, _, rfl, .meaningless hown hreserved, hdoes⟩
  | unopened hclosed => exact ⟨_, _, rfl, .unopened hown hclosed, hdoes⟩
  | opened hknown text hopen =>
    simp only
    cases hreply : p.topic.reply? with
    | none =>
      exact ⟨_, _, rfl, .delivered (Or.inl hown) hknown text hopen [] (.of_none hreply), hdoes⟩
    | some reply =>
      obtain ⟨key, hkey⟩ := hkey rfl
      obtain ⟨hcanonical, hplain⟩ := reply_isPlain hreply
      obtain ⟨id, q, hid, htopic, hback, hfits, hsealed, hanswers⟩ :=
        does_originate (s := delivered) (hdoes.sendFault.trans hradio) hseals hkey p.source
          hcanonical hplain (replyBody_short p reply) now
      rw [hdoes.nodeId] at hsealed
      have hboth := hdoes.trans hanswers
      rw [Effect.handed_append] at hboth
      have hanswered : p.Answered s.router.nodeId keys [q] :=
        .of_reply hreply hone htopic hback hfits hsealed
      simp only
      generalize delivered.originate p.source reply (replyBody p reply) now keys = answered
        at hid hboth ⊢
      rcases answered with ⟨result, answered⟩
      cases hid
      exact ⟨_, _, rfl, .delivered (Or.inl hown) hknown text hopen [q] hanswered, hboth⟩

theorem handled_spread (hlistens : s.router.hasHandler = true)
    (hradio : s.radio.sendFault = none) (hfits : p.Fits)
    (haway : p.destination ≠ s.router.nodeId) (hall : p.isBroadcast = true) (keys : KeyRing) :
    ∃ outcome e, (s.spread p keys).1 = .ok outcome ∧
      p.Handled s.router.nodeId s.router.maxHops s.router.relayEnabled keys outcome e ∧
      s.Does e (s.spread p keys).2 := by
  obtain ⟨e, hdelivers, hdoes⟩ := does_deliver hlistens p keys
  unfold spread
  generalize s.deliver p keys = delivered at hdelivers hdoes ⊢
  rcases delivered with ⟨result, delivered⟩
  simp only at hdelivers hdoes ⊢
  -- With a packet that goes on, a delivery is in passing; of the others it is the outcome.
  cases hrelays : delivered.router.relayEnabled with
  | true =>
    have hon : s.router.relayEnabled = true := hdoes.relayEnabled ▸ hrelays
    have hpassing : ∃ deliveries, p.HandedInPassing keys deliveries ∧
        s.Does { handed := deliveries } delivered := by
      cases hdelivers with
      | meaningless hreserved => exact ⟨[], .closed (Or.inl hreserved), hdoes⟩
      | unopened hclosed => exact ⟨[], .closed (Or.inr hclosed), hdoes⟩
      | opened hknown text hopen => exact ⟨_, .opened hall hknown text hopen, hdoes⟩
    obtain ⟨deliveries, hhanded, hdoes⟩ := hpassing
    obtain ⟨outcome, e, houtcome, hrelayed, hgoes⟩ := does_relay (s := delivered)
      (hdoes.sendFault.trans hradio) hfits .broadcast
    have hboth := hdoes.trans hgoes
    rw [Effect.handed_append, hrelayed.handed, List.append_nil] at hboth
    refine ⟨outcome, _, houtcome, ?_, hboth⟩
    rw [← hdoes.nodeId] at haway ⊢
    rw [← hdoes.maxHops]
    cases hrelayed with
    | forwarded hwithin hone => cases hone
    | rebroadcast hwithin _ => exact .rebroadcast haway hon hwithin deliveries hhanded
    | spent hspent => exact .spent haway hon hspent deliveries hhanded
  | false =>
    have hoff : s.router.relayEnabled = false := hdoes.relayEnabled ▸ hrelays
    cases hdelivers with
    | meaningless hreserved =>
      exact ⟨_, _, rfl, .disabled haway hoff fun _ => Or.inl hreserved, hdoes⟩
    | unopened hclosed =>
      exact ⟨_, _, rfl, .disabled haway hoff fun _ => Or.inr hclosed, hdoes⟩
    | opened hknown text hopen =>
      exact ⟨_, _, rfl, .delivered (Or.inr ⟨hall, hoff⟩) hknown text hopen []
        (.silent (Or.inl hall)), hdoes⟩

theorem handled_forward (hradio : s.radio.sendFault = none) (hfits : p.Fits)
    (hplain : p.topic.isInclusion = false) (haway : p.destination ≠ s.router.nodeId)
    (hone : p.isBroadcast = false) (hmine : s.router.isOverheard p = false) (keys : KeyRing) :
    ∃ outcome e, (s.forward p).1 = .ok outcome ∧
      p.Handled s.router.nodeId s.router.maxHops s.router.relayEnabled keys outcome e ∧
      s.Does e (s.forward p).2 := by
  rw [forward_eq hplain hone haway hmine]
  cases hrelays : s.router.relayEnabled with
  | false =>
    have hnobody : p.isBroadcast = true → p.IsClosed keys :=
      fun hall => absurd (hone.symm.trans hall) Bool.false_ne_true
    exact ⟨_, _, rfl, .disabled haway rfl hnobody, Does.refl s⟩
  | true =>
    obtain ⟨outcome, e, houtcome, hrelayed, hdoes⟩ :=
      does_relay hradio hfits (s.router.nextHop p.destination)
    refine ⟨outcome, e, houtcome, ?_, hdoes⟩
    cases hrelayed with
    | forwarded hwithin hnext => exact .forwarded haway rfl hwithin hone _ hnext
    | rebroadcast hwithin _ => exact .rebroadcast haway rfl hwithin [] (.other hone)
    | spent hspent => exact .spent haway rfl hspent [] (.other hone)

theorem handled_dispatch (hnamed : s.router.nodeId.isBroadcast = false)
    (hlistens : s.router.hasHandler = true) (hradio : s.radio.sendFault = none)
    (hseals : keys.provider.SealsAll) (hfits : p.Fits) (hmine : s.router.isOverheard p = false)
    (now : Nat) :
    ∃ outcome e, (s.dispatch p now keys).1 = .ok outcome ∧
      p.Handled s.router.nodeId s.router.maxHops s.router.relayEnabled keys outcome e ∧
      s.Does e (s.dispatch p now keys).2 := by
  unfold dispatch
  cases htopic : p.topic.isInclusion with
  | true => exact ⟨_, _, rfl, .handshake htopic, Does.refl s⟩
  | false =>
    simp only [Bool.false_eq_true, if_false]
    by_cases hown : p.destination = s.router.nodeId
    · have hone : p.isBroadcast = false := by
        unfold Packet.isBroadcast
        rw [hown]
        exact hnamed
      rw [if_pos hown]
      exact handled_deliverUnicast hlistens hradio hseals hown hone now
    rw [if_neg hown]
    cases hall : p.isBroadcast with
    | true => exact handled_spread hlistens hradio hfits hown hall keys
    | false => exact handled_forward hradio hfits htopic hown hall hmine keys

/-- Where nothing fails every frame has an outcome, and the outcome says what was sent,
what was handed over and what was counted. -/
theorem route_reports (hnamed : s.router.nodeId.isBroadcast = false)
    (hlistens : s.router.hasHandler = true) (hradio : s.radio.sendFault = none)
    (hseals : keys.provider.SealsAll) (frame : Bytes) (rssi : Int16) (now : Nat) :
    ∃ outcome e, (s.route frame rssi now keys).1 = .ok outcome ∧
      s.router.Reports keys frame rssi now outcome e ∧
      s.Does e (s.route frame rssi now keys).2 := by
  have hnotes := s.does_screen frame rssi now
  have hscreened := s.router.screened frame rssi now
  unfold route
  rcases hscreen : s.router.screen frame rssi now with ⟨result, router⟩
  rw [hscreen] at hnotes hscreened
  cases result with
  | error reason =>
    have hreason := Router.ne_maxHops_of_screen (congrArg Prod.fst hscreen)
    exact ⟨_, _, rfl, .refused reason hreason router hscreened, hnotes⟩
  | ok p =>
    obtain ⟨hdecode, hmine, _⟩ := Router.screen_eq_ok_iff.mp (congrArg Prod.fst hscreen)
    rw [← Router.isOverheard_congr hnotes.nodeId] at hmine
    obtain ⟨outcome, e, houtcome, hhandled, hdoes⟩ :=
      handled_dispatch (s := { s with router := router }) (hnotes.nodeId ▸ hnamed)
        (hnotes.hasHandler.trans hlistens) hradio hseals (Packet.fits_of_decode hdecode) hmine now
    have hall := hnotes.trans hdoes
    rw [Effect.nil_append] at hall
    rw [hnotes.nodeId, hnotes.maxHops, hnotes.relayEnabled] at hhandled
    exact ⟨outcome, e, houtcome, .handled p router hscreened outcome e hhandled, hall⟩

def chainHeader : Packet := .fresh ⟨1⟩ ⟨2⟩ (.application 0x20) [] 0

/-- What the first node sends to the second. -/
def chainPacket : Packet :=
  { chainHeader with
    payload := CryptoProvider.label chainKey chainHeader.associatedData ++ [4, 2] }

theorem chainPacket_fits : chainPacket.Fits := ⟨rfl, by decide +kernel⟩

/-- A third node, which has no key and knows no route, looks for one. -/
theorem chainPacket_rebroadcast :
    ((chainStation ⟨3⟩).route chainPacket.frame 0 5 { provider := .software }).1 =
      .ok .rebroadcast := by
  rw [route_fresh chainPacket_fits.decode rfl rfl (by decide)]
  rfl

theorem route_reports_rebroadcast :
    let heard := (chainStation ⟨3⟩).route chainPacket.frame 0 5 { provider := .software }
    heard.1 = .ok .rebroadcast ∧
      heard.2.radio.outbox = [(chainPacket.copy 1 ⟨3⟩ .broadcast).frame] ∧
      heard.2.router.handed = [] ∧
      heard.2.router.stats.sent = 1 ∧ heard.2.router.stats.rebroadcast = 1 := by
  have hseals : ({ provider := .software } : KeyRing).provider.SealsAll :=
    CryptoProvider.software_isFaithful.sealsAll
  obtain ⟨outcome, e, houtcome, hreports, hdoes⟩ :=
    route_reports (s := chainStation ⟨3⟩) rfl rfl rfl hseals chainPacket.frame 0 5
  cases chainPacket_rebroadcast.symm.trans houtcome
  generalize (chainStation ⟨3⟩).route chainPacket.frame 0 5 { provider := .software } = heard
    at houtcome hdoes ⊢
  cases hreports with
  | handled p after hscreened outcome e hhandled =>
    cases hscreened with
    | passed p hdecode =>
      rw [chainPacket_fits.decode] at hdecode
      cases hdecode
      cases hhandled with
      | rebroadcast haway hon hwithin deliveries hhanded =>
        obtain rfl : deliveries = [] := by
          cases hhanded with
          | other | closed => rfl
          | opened hall => cases hall
        have hair : heard.2.radio.outbox = [(chainPacket.copy 1 ⟨3⟩ .broadcast).frame] := by
          rw [hdoes.radio]
          rfl
        exact ⟨houtcome, hair, hdoes.handed, hdoes.sent, hdoes.rebroadcast⟩

end Station
end Meshwork
