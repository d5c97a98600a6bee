import Meshwork.Proofs.Crypto.Opening
import Meshwork.Proofs.Station.Conduct

/-!
# A station that works

Where the radio does not fail and there is a key, nothing that a router does with a
frame fails: whatever passes the screen has fitted in a frame before, and answers
are short. What a frame changes is told here as an equation, case by case.
-/

namespace Meshwork
set_option autoImplicit false

namespace Packet

/-- A packet that goes on the air as it is. -/
structure Fits (p : Packet) : Prop where
  topic : p.topic.isCanonical = true
  payload : p.payload.length ≤ maxPayload

def frame (p : Packet) : Bytes := sealBody p.body

variable {p : Packet} {bs : Bytes}

theorem Fits.encode (h : p.Fits) : p.encode = .ok p.frame :=
  encode_eq_ok_iff.mpr ⟨h.topic, h.payload, rfl⟩

theorem Fits.decode (h : p.Fits) : Packet.decode p.frame = .ok p :=
  decode_eq_ok_iff_encode.mpr h.encode

theorem fits_of_decode (h : Packet.decode bs = .ok p) : p.Fits := by
  obtain ⟨htopic, hpayload, _⟩ := encode_eq_ok_iff.mp (decode_eq_ok_iff_encode.mp h)
  exact ⟨htopic, hpayload⟩

/-- The same message as some node sends it. -/
def copy (m : Packet) (hopCount : UInt8) (lastHop nextHop : NodeId) : Packet :=
  { m with hopCount := hopCount, lastHop := lastHop, nextHop := nextHop }

theorem Fits.copy (h : p.Fits) (hopCount : UInt8) (lastHop nextHop : NodeId) :
    (p.copy hopCount lastHop nextHop).Fits :=
  ⟨h.topic, h.payload⟩

end Packet

/-! ## Keys -/

/-- The ring works with this provider and has this key. -/
structure KeyRing.Holds (k : KeyRing) (provider : CryptoProvider) (key : MeshKey) : Prop where
  provider : k.provider = provider
  key : k.key = some key

/-- A packet that holds a text for whoever has the key. -/
structure Packet.Carries (m : Packet) (provider : CryptoProvider) (key : MeshKey) (text : Bytes) :
    Prop where
  fits : m.Fits
  plain : m.topic.isInclusion = false
  opens : ∀ k : KeyRing, k.Holds provider key →
    k.unsealText m.associatedData m.payload = .ok text

namespace Packet

variable {m : Packet} {provider : CryptoProvider} {key : MeshKey} {text bs : Bytes}

theorem Carries.decode (h : m.Carries provider key text) (hop : UInt8) (last next : NodeId) :
    Packet.decode (m.copy hop last next).frame = .ok (m.copy hop last next) :=
  (h.fits.copy hop last next).decode

theorem Carries.key_of_frame (h : m.Carries provider key text) {hop : UInt8} {last next : NodeId}
    (hframe : bs = (m.copy hop last next).frame) :
    ∃ p, Packet.decode bs = .ok p ∧ p.key = m.key :=
  ⟨m.copy hop last next, hframe ▸ h.decode hop last next, rfl⟩

/-- A frame is the message as some node sends it. -/
def HasCopy (m : Packet) (frame : Bytes) : Prop :=
  ∃ hop last next, frame = (m.copy hop last next).frame

end Packet

namespace KeyRing

variable {k : KeyRing} {provider : CryptoProvider} {key : MeshKey}

/-- What one holder of the key seals opens for all of them. -/
theorem Holds.seals (h : k.Holds provider key) (hfaithful : provider.IsFaithful)
    (aad plain : Bytes) (draws : Draws) :
    ∃ blob after, k.sealText aad plain draws = (.ok blob, after) ∧
      blob.length = plain.length + CryptoProvider.sealOverhead ∧
      ∀ k' : KeyRing, k'.Holds provider key → k'.unsealText aad blob = .ok plain := by
  obtain ⟨blob, after, hseal, hlength, hopen⟩ := hfaithful.seals key aad plain draws
  rw [← h.provider] at hseal
  refine ⟨blob, after, sealText_of_key h.key hseal, hlength, fun k' h' => ?_⟩
  rw [← h'.provider] at hopen
  exact unsealText_of_key h'.key hopen

end KeyRing

namespace Station

variable {s : Station} {p : Packet} {keys : KeyRing} {now : Nat} {provider : CryptoProvider}
variable {key : MeshKey}

/-! ## Sending -/

theorem send_eq (hradio : s.radio.sendFault = none) (frame : Bytes) :
    s.send frame = (.ok (),
      { s with
        radio := { s.radio with outbox := s.radio.outbox ++ [frame] }
        router.stats.sent := s.router.stats.sent + 1 }) := by
  rcases s.send_cases frame with ⟨e, hfault, _⟩ | ⟨_, h⟩
  · rw [hradio] at hfault
    cases hfault
  · exact h

theorem transmit_eq (hradio : s.radio.sendFault = none) (hfits : p.Fits) (now : Nat) :
    s.transmit p now = (.ok p.packetId,
      { s with
        radio := { s.radio with outbox := s.radio.outbox ++ [(s.address p).frame] }
        router.tracker := (s.router.tracker.observe p.key now).2
        router.stats.sent := s.router.stats.sent + 1 }) := by
  have haddressed : (s.address p).Fits := ⟨hfits.topic, hfits.payload⟩
  have hsend := send_eq (s := s.record p now) hradio (s.address p).frame
  unfold transmit
  rw [haddressed.encode]
  simp only
  rw [hsend]
  rfl

/-- The identifier that the next message gets. -/
def nextId (draws : Draws) : UInt32 := Packet.idOfDraw (draws.take 4).1

/-- The header of the next message. -/
def header (s : Station) (destination : NodeId) (topic : Topic) : Packet :=
  .fresh s.router.nodeId destination topic [] (nextId s.draws)

theorem create_header {topic : Topic} (destination : NodeId)
    (hcanonical : topic.isCanonical = true) :
    Packet.create s.router.nodeId destination topic [] s.draws =
      (.ok (s.header destination topic), (s.draws.take 4).2) := by
  have hcheck : Packet.check topic [] = .ok () := by
    unfold Packet.check
    rw [hcanonical]
    rfl
  unfold Packet.create
  rw [hcheck]
  rfl

/-- A message is composed once its payload is as it goes on the air, and short enough. -/
theorem compose_of_payload {topic : Topic} {payload blob : Bytes} {after : Draws}
    (destination : NodeId) (hcanonical : topic.isCanonical = true)
    (hpayload : sealPayload (s.header destination topic) payload keys (s.draws.take 4).2 =
      (.ok blob, after))
    (hshort : blob.length ≤ Packet.maxPayload) :
    s.compose destination topic payload keys =
        (.ok { s.header destination topic with payload := blob }, { s with draws := after }) ∧
      ({ s.header destination topic with payload := blob } : Packet).Fits := by
  refine ⟨?_, hcanonical, hshort⟩
  unfold compose
  rw [create_header destination hcanonical]
  simp only
  rw [hpayload]
  simp only
  rw [if_neg (by omega)]

theorem compose_of_seal {topic : Topic} {payload blob : Bytes} {after : Draws}
    (destination : NodeId) (hcanonical : topic.isCanonical = true)
    (hplain : topic.isInclusion = false)
    (hseal : keys.sealText (s.header destination topic).associatedData payload
      (s.draws.take 4).2 = (.ok blob, after))
    (hshort : blob.length ≤ Packet.maxPayload) :
    s.compose destination topic payload keys =
        (.ok { s.header destination topic with payload := blob }, { s with draws := after }) ∧
      ({ s.header destination topic with payload := blob } : Packet).Fits := by
  have hpayload : sealPayload (s.header destination topic) payload keys (s.draws.take 4).2 =
      (.ok blob, after) := by
    unfold sealPayload
    rw [if_neg (by rw [show (s.header destination topic).topic = topic from rfl, hplain]; decide)]
    exact hseal
  exact compose_of_payload destination hcanonical hpayload hshort

theorem compose_eq (hkeys : keys.Holds provider key) (hfaithful : provider.IsFaithful)
    {topic : Topic} {payload : Bytes} (destination : NodeId) (hcanonical : topic.isCanonical = true)
    (hplain : topic.isInclusion = false)
    (hshort : payload.length + CryptoProvider.sealOverhead ≤ Packet.maxPayload) :
    ∃ blob after, s.compose destination topic payload keys =
        (.ok { s.header destination topic with payload := blob }, { s with draws := after }) ∧
      ({ s.header destination topic with payload := blob } : Packet).Fits ∧
      ∀ k : KeyRing, k.Holds provider key →
        k.unsealText (s.header destination topic).associatedData blob = .ok payload := by
  obtain ⟨blob, after, hseal, hlength, hopens⟩ := hkeys.seals hfaithful
    (s.header destination topic).associatedData payload (s.draws.take 4).2
  obtain ⟨hcompose, hfits⟩ :=
    compose_of_seal destination hcanonical hplain hseal (hlength ▸ hshort)
  exact ⟨blob, after, hcompose, hfits, hopens⟩

/-- A message of a station that works goes on the air, and whoever holds the key
can open it. -/
theorem originate_eq (hradio : s.radio.sendFault = none) (hkeys : keys.Holds provider key)
    (hfaithful : provider.IsFaithful) {topic : Topic} {payload : Bytes} (destination : NodeId)
    (hcanonical : topic.isCanonical = true) (hplain : topic.isInclusion = false)
    (hshort : payload.length + CryptoProvider.sealOverhead ≤ Packet.maxPayload) (now : Nat) :
    ∃ (m : Packet) (after : Draws), m = { s.header destination topic with payload := m.payload } ∧
      m.Carries provider key payload ∧
      s.originate destination topic payload now keys = (.ok (nextId s.draws),
        { s with
          draws := after
          radio := { s.radio with outbox := s.radio.outbox ++ [(m.copy 0 s.router.nodeId
            (if m.isBroadcast then .broadcast else s.router.nextHop m.destination)).frame] }
          router.tracker := (s.router.tracker.observe m.key now).2
          router.stats.sent := s.router.stats.sent + 1 }) := by
  obtain ⟨blob, after, hcompose, hfits, hopens⟩ :=
    compose_eq (s := s) hkeys hfaithful destination hcanonical hplain hshort
  refine ⟨_, after, rfl, ⟨hfits, hplain, hopens⟩, ?_⟩
  unfold originate
  rw [hcompose]
  exact transmit_eq (s := { s with draws := after }) hradio hfits now

/-! ## Relaying -/

theorem relay_within (hradio : s.radio.sendFault = none) (hfits : p.Fits)
    (hwithin : p.hopCount < s.router.maxHops) (nextHop : NodeId) :
    s.relay p nextHop =
      let sent : Station := { s with
        radio := { s.radio with
          outbox := s.radio.outbox ++ [(p.copy (p.hopCount + 1) s.router.nodeId nextHop).frame] }
        router.stats.sent := s.router.stats.sent + 1 }
      if nextHop.isBroadcast then
        (.ok .rebroadcast,
          { sent with router.stats.rebroadcast := s.router.stats.rebroadcast + 1 })
      else
        (.ok (.forwarded nextHop),
          { sent with router.stats.forwarded := s.router.stats.forwarded + 1 }) := by
  have hspend : p.spendHop s.router.maxHops = .ok { p with hopCount := p.hopCount + 1 } := by
    rcases spendHop_cases p s.router.maxHops with ⟨hover, _⟩ | ⟨_, h⟩
    · exact absurd hwithin (UInt8.not_lt.mpr hover)
    · exact h
  have hencode := (hfits.copy (p.hopCount + 1) s.router.nodeId nextHop).encode
  unfold Packet.copy at hencode
  unfold relay
  rw [hspend]
  simp only
  rw [hencode]
  simp only
  rw [send_eq hradio]
  rfl

theorem relay_eq (hradio : s.radio.sendFault = none) (hfits : p.Fits)
    (hwithin : p.hopCount < s.router.maxHops) (nextHop : NodeId) :
    ∃ outcome stats, s.relay p nextHop = (.ok outcome,
      { s with
        radio := { s.radio with
          outbox := s.radio.outbox ++ [(p.copy (p.hopCount + 1) s.router.nodeId nextHop).frame] }
        router.stats := stats }) := by
  rw [relay_within hradio hfits hwithin nextHop]
  simp only
  split
  · exact ⟨_, _, rfl⟩
  · exact ⟨_, _, rfl⟩

theorem relay_spent (hspent : s.router.maxHops ≤ p.hopCount) (nextHop : NodeId) :
    s.relay p nextHop = (.ok (.dropped .maxHops),
      { s with
        router.stats.hopLimitExceeded := s.router.stats.hopLimitExceeded + 1 }) := by
  have hspend : p.spendHop s.router.maxHops = .error (.maxHops p.hopCount s.router.maxHops) := by
    rcases spendHop_cases p s.router.maxHops with ⟨_, h⟩ | ⟨hwithin, _⟩
    · exact h
    · exact absurd hwithin (UInt8.not_lt.mpr hspent)
  unfold relay
  rw [hspend]

theorem relay_ok (hradio : s.radio.sendFault = none) (hfits : p.Fits) (nextHop : NodeId) :
    ∃ outcome, (s.relay p nextHop).1 = .ok outcome := by
  by_cases hwithin : p.hopCount < s.router.maxHops
  · obtain ⟨outcome, stats, h⟩ := relay_eq hradio hfits hwithin nextHop
    rw [h]
    exact ⟨outcome, rfl⟩
  · rw [relay_spent (UInt8.not_lt.mp hwithin) nextHop]
    exact ⟨_, rfl⟩

/-! ## Delivering -/

/-- A payload that opens is handed to the application that listens. -/
theorem deliver_opened {text : Bytes} (hlistens : s.router.hasHandler = true)
    (hknown : p.topic.isReserved = false)
    (hopen : keys.unsealText p.associatedData p.payload = .ok text) :
    ∃ table, (p.topic ≠ .bye → table = s.router.table) ∧
      s.deliver p keys = (.ok (),
        { s with router := { s.router with
            table := table
            stats.delivered := s.router.stats.delivered + 1
            handed := s.router.handed ++ [Delivery.ofPacket p text] } }) := by
  have hbye : ∃ table, (p.topic ≠ .bye → table = s.router.table) ∧
      s.router.heedBye p = { s.router with table := table } := by
    unfold Router.heedBye
    split
    · rename_i htopic
      exact ⟨_, fun h => absurd htopic h, rfl⟩
    · exact ⟨s.router.table, fun _ => rfl, rfl⟩
  obtain ⟨table, hkept, hbye⟩ := hbye
  refine ⟨table, hkept, ?_⟩
  unfold deliver Router.deliver
  rw [hknown, hopen]
  simp only [Bool.false_eq_true, if_false]
  rw [hbye]
  unfold Router.hand
  simp only [hlistens, if_true]

theorem deliver_eq {text : Bytes} (hlistens : s.router.hasHandler = true)
    (hknown : p.topic.isReserved = false)
    (hopen : keys.unsealText p.associatedData p.payload = .ok text) :
    ∃ table stats, (p.topic ≠ .bye → table = s.router.table) ∧
      s.deliver p keys = (.ok (),
        { s with router := { s.router with
            table := table
            stats := stats
            handed := s.router.handed ++ [Delivery.ofPacket p text] } }) := by
  obtain ⟨table, hkept, h⟩ := deliver_opened hlistens hknown hopen
  exact ⟨table, _, hkept, h⟩

/-- A message for everybody is handed over, and goes one hop on while it may. -/
theorem dispatch_broadcast {text : Bytes} (hradio : s.radio.sendFault = none) (hfits : p.Fits)
    (hlistens : s.router.hasHandler = true) (hrelays : s.router.relayEnabled = true)
    (hnamed : s.router.nodeId.isReserved = false) (hplain : p.topic.isInclusion = false)
    (hknown : p.topic.isReserved = false) (hall : p.destination = .broadcast)
    (hopen : keys.unsealText p.associatedData p.payload = .ok text) (now : Nat) :
    ∃ table stats, (s.dispatch p now keys).2 =
      { s with
        router := { s.router with
          table := table
          stats := stats
          handed := s.router.handed ++ [Delivery.ofPacket p text] }
        radio := { s.radio with outbox := s.radio.outbox ++
          if p.hopCount < s.router.maxHops then
            [(p.copy (p.hopCount + 1) s.router.nodeId .broadcast).frame]
          else [] } } := by
  obtain ⟨table, stats, _, hdeliver⟩ := deliver_eq (s := s) hlistens hknown hopen
  have hother : p.destination ≠ s.router.nodeId := by
    rw [hall]
    rintro hown
    rw [← hown] at hnamed
    cases hnamed
  have hbroadcast : p.isBroadcast = true := by
    unfold Packet.isBroadcast
    rw [hall]
    rfl
  unfold dispatch
  rw [hplain]
  simp only [Bool.false_eq_true, if_false, if_neg hother, hbroadcast, if_true]
  unfold spread
  rw [hdeliver]
  simp only [hrelays, if_true]
  generalize hdelivered : ({ s with router := _ } : Station) = delivered
  have hfault : delivered.radio.sendFault = none := by
    rw [← hdelivered]
    exact hradio
  by_cases hwithin : p.hopCount < s.router.maxHops
  · obtain ⟨outcome, stats', hrelay⟩ := relay_eq (s := delivered) hfault hfits
      (by rw [← hdelivered]; exact hwithin) .broadcast
    rw [hrelay, ← hdelivered]
    exact ⟨table, stats', by rw [if_pos hwithin]⟩
  · have hrelay := relay_spent (s := delivered)
      (by rw [← hdelivered]; exact UInt8.not_lt.mp hwithin) .broadcast
    rw [hrelay, ← hdelivered]
    exact ⟨table, _, by rw [if_neg hwithin, List.append_nil]⟩

theorem reply_isPlain {topic reply : Topic} (h : topic.reply? = some reply) :
    reply.isCanonical = true ∧ reply.isInclusion = false := by
  cases topic with
  | ping =>
    cases h
    decide
  | cmd =>
    cases h
    decide
  | _ => cases h

theorem length_replyBody (p : Packet) (reply : Topic) : (replyBody p reply).length ≤ 4 := by
  unfold replyBody
  split
  · exact Nat.le_of_eq (Bytes.length_bigEndian _ _)
  · exact Nat.zero_le _

theorem replyBody_short (p : Packet) (reply : Topic) :
    (replyBody p reply).length + CryptoProvider.sealOverhead ≤ Packet.maxPayload := by
  have hbody := length_replyBody p reply
  simp only [CryptoProvider.sealOverhead, Gcm.nonceLength, Gcm.tagLength, Packet.maxPayload,
    Packet.maxFrameLength, Packet.minFrameLength, Packet.headerLength, Packet.checksumLength]
  omega

/-- Past the screen, a packet for another node comes to be sent on by this one. -/
theorem forward_eq (hplain : p.topic.isInclusion = false) (hone : p.isBroadcast = false)
    (hother : p.destination ≠ s.router.nodeId) (hmine : s.router.isOverheard p = false) :
    s.forward p =
      if s.router.relayEnabled then s.relay p (s.router.nextHop p.destination)
      else (.ok (.dropped .relayDisabled), s) := by
  have hpasses : ¬(p.nextHop ≠ s.router.nodeId ∧ (!p.nextHop.isBroadcast) = true) := by
    rintro ⟨hnext, hnamed⟩
    unfold Router.isOverheard at hmine
    rw [hplain, hone, hnamed, bne_iff_ne.mpr hother, bne_iff_ne.mpr hnext] at hmine
    cases hmine
  unfold forward
  rw [if_neg hpasses]
  cases s.router.relayEnabled with
  | true => rfl
  | false => rfl

/-- A packet that another node is to get, and this one is to send on. -/
theorem dispatch_forward (hradio : s.radio.sendFault = none) (hfits : p.Fits)
    (hrelays : s.router.relayEnabled = true) (hplain : p.topic.isInclusion = false)
    (hone : p.isBroadcast = false) (hother : p.destination ≠ s.router.nodeId)
    (hmine : s.router.isOverheard p = false) (hwithin : p.hopCount < s.router.maxHops)
    (now : Nat) (keys : KeyRing) :
    ∃ stats, (s.dispatch p now keys).2 =
      { s with
        router.stats := stats
        radio := { s.radio with outbox := s.radio.outbox ++
          [(p.copy (p.hopCount + 1) s.router.nodeId
            (s.router.nextHop p.destination)).frame] } } := by
  obtain ⟨outcome, stats, hrelay⟩ := relay_eq hradio hfits hwithin (s.router.nextHop p.destination)
  refine ⟨stats, ?_⟩
  unfold dispatch
  rw [hplain, hone]
  simp only [Bool.false_eq_true, if_false, if_neg hother]
  rw [forward_eq hplain hone hother hmine, if_pos hrelays, hrelay]

theorem dispatch_own (hplain : p.topic.isInclusion = false)
    (hown : p.destination = s.router.nodeId) (now : Nat) (keys : KeyRing) :
    s.dispatch p now keys = s.deliverUnicast p now keys := by
  unfold dispatch
  rw [hplain, if_pos hown]
  rfl

/-- A message for this node that asks for no answer is handed over. -/
theorem deliverUnicast_eq {text : Bytes} (hlistens : s.router.hasHandler = true)
    (hknown : p.topic.isReserved = false)
    (hopen : keys.unsealText p.associatedData p.payload = .ok text)
    (hnone : p.topic.reply? = none) (now : Nat) :
    ∃ table stats, (s.deliverUnicast p now keys).2 =
      { s with router := { s.router with
          table := table
          stats := stats
          handed := s.router.handed ++ [Delivery.ofPacket p text] } } := by
  obtain ⟨table, stats, _, hdeliver⟩ := deliver_eq (s := s) hlistens hknown hopen
  refine ⟨table, stats, ?_⟩
  unfold deliverUnicast
  rw [hdeliver]
  simp only
  rw [hnone]

/-- A message for this node that asks for an answer is handed over and answered. -/
theorem deliverUnicast_reply {text : Bytes} {reply : Topic} (hradio : s.radio.sendFault = none)
    (hkeys : keys.Holds provider key) (hfaithful : provider.IsFaithful)
    (hlistens : s.router.hasHandler = true) (hknown : p.topic.isReserved = false)
    (hopen : keys.unsealText p.associatedData p.payload = .ok text)
    (hreply : p.topic.reply? = some reply) (now : Nat) :
    ∃ (q : Packet) (after : Draws) (stats : MeshStats),
      q = { s.header p.source reply with payload := q.payload } ∧
      q.Carries provider key (replyBody p reply) ∧
      (s.deliverUnicast p now keys).2 =
        { s with
          draws := after
          router := { s.router with
            tracker := (s.router.tracker.observe q.key now).2
            stats := stats
            handed := s.router.handed ++ [Delivery.ofPacket p text] }
          radio := { s.radio with outbox := s.radio.outbox ++ [(q.copy 0 s.router.nodeId
            (if q.isBroadcast then .broadcast else s.router.nextHop q.destination)).frame] } } := by
  obtain ⟨table, stats, htable, hdeliver⟩ := deliver_eq (s := s) hlistens hknown hopen
  have hbye : p.topic ≠ .bye := by
    intro htopic
    rw [htopic] at hreply
    cases hreply
  obtain rfl := htable hbye
  obtain ⟨hcanonical, hplain⟩ := reply_isPlain hreply
  have hshort := replyBody_short p reply
  obtain ⟨q, after, hq, hcarries, hsent⟩ := originate_eq
    (s := { s with router := { s.router with
      stats := stats
      handed := s.router.handed ++ [Delivery.ofPacket p text] } })
    hradio hkeys hfaithful p.source hcanonical hplain hshort now
  refine ⟨q, after, { stats with sent := stats.sent + 1 }, hq, hcarries, ?_⟩
  unfold deliverUnicast
  rw [hdeliver]
  simp only
  rw [hreply]
  simp only
  rw [hsent]
  rfl

/-- Nothing is delivered without a key. -/
theorem key_of_deliver (h : (s.deliver p keys).1 = .ok ()) : ∃ key, keys.key = some key := by
  cases hkey : keys.key with
  | some key => exact ⟨key, rfl⟩
  | none =>
    unfold deliver Router.deliver KeyRing.unsealText at h
    rw [hkey] at h
    simp only at h
    split at h
    · cases h
    · cases h

/-- What is short enough is sent wherever there is a key. -/
theorem originate_sealed (hradio : s.radio.sendFault = none) (hseals : keys.provider.SealsAll)
    (hkey : keys.key = some key) {topic : Topic} {payload : Bytes} (destination : NodeId)
    (hcanonical : topic.isCanonical = true) (hplain : topic.isInclusion = false)
    (hshort : payload.length + CryptoProvider.sealOverhead ≤ Packet.maxPayload) (now : Nat) :
    ∃ (m : Packet) (after : Draws),
      s.originate destination topic payload now keys = (.ok m.packetId,
        { s with
          draws := after
          radio := { s.radio with outbox := s.radio.outbox ++ [(s.address m).frame] }
          router.tracker := (s.router.tracker.observe m.key now).2
          router.stats.sent := s.router.stats.sent + 1 }) := by
  obtain ⟨blob, after, hsealed, hlength⟩ := hseals key
    (s.header destination topic).associatedData payload (s.draws.take 4).2
  have hseal := KeyRing.sealText_of_key hkey hsealed
  obtain ⟨hcompose, hfits⟩ :=
    compose_of_seal destination hcanonical hplain hseal (hlength ▸ hshort)
  refine ⟨{ s.header destination topic with payload := blob }, after, ?_⟩
  unfold originate
  rw [hcompose]
  exact transmit_eq (s := { s with draws := after }) hradio hfits now

theorem originate_ok (hradio : s.radio.sendFault = none) (hseals : keys.provider.SealsAll)
    (hkey : keys.key = some key) {topic : Topic} {payload : Bytes} (destination : NodeId)
    (hcanonical : topic.isCanonical = true) (hplain : topic.isInclusion = false)
    (hshort : payload.length + CryptoProvider.sealOverhead ≤ Packet.maxPayload) (now : Nat) :
    ∃ id, (s.originate destination topic payload now keys).1 = .ok id := by
  obtain ⟨m, after, hsent⟩ :=
    originate_sealed hradio hseals hkey destination hcanonical hplain hshort now
  exact ⟨_, congrArg Prod.fst hsent⟩

theorem deliverUnicast_ok (hradio : s.radio.sendFault = none) (hseals : keys.provider.SealsAll)
    (p : Packet) (now : Nat) : ∃ outcome, (s.deliverUnicast p now keys).1 = .ok outcome := by
  have hdelivered := deliver_radio s p keys
  have hkey := @key_of_deliver s p keys
  unfold deliverUnicast
  generalize s.deliver p keys = delivered at hdelivered hkey ⊢
  rcases delivered with ⟨result, delivered⟩
  cases result with
  | error reason => exact ⟨_, rfl⟩
  | ok done =>
    obtain ⟨key, hkey⟩ := hkey rfl
    simp only
    cases hreply : p.topic.reply? with
    | none => exact ⟨_, rfl⟩
    | some reply =>
      obtain ⟨hcanonical, hplain⟩ := reply_isPlain hreply
      have hworks : delivered.radio.sendFault = none := by
        rw [show delivered.radio = s.radio from hdelivered]
        exact hradio
      obtain ⟨id, hsent⟩ := originate_ok hworks hseals hkey p.source hcanonical hplain
        (replyBody_short p reply) now
      simp only
      generalize delivered.originate p.source reply (replyBody p reply) now keys = sent at hsent ⊢
      rcases sent with ⟨result, after⟩
      change result = .ok id at hsent
      rw [hsent]
      exact ⟨_, rfl⟩

theorem dispatch_ok (hradio : s.radio.sendFault = none) (hseals : keys.provider.SealsAll)
    (hfits : p.Fits) (now : Nat) :
    ∃ outcome, (s.dispatch p now keys).1 = .ok outcome := by
  unfold dispatch
  split
  · exact ⟨_, rfl⟩
  · split
    · exact deliverUnicast_ok hradio hseals p now
    · split
      · have hdelivered := deliver_radio s p keys
        unfold spread
        generalize s.deliver p keys = delivered at hdelivered ⊢
        rcases delivered with ⟨result, delivered⟩
        simp only
        split
        · apply relay_ok _ hfits
          rw [show delivered.radio = s.radio from hdelivered]
          exact hradio
        · cases result with
          | error reason => exact ⟨_, rfl⟩
          | ok done => exact ⟨_, rfl⟩
      · unfold forward
        split
        · exact ⟨_, rfl⟩
        · split
          · exact ⟨_, rfl⟩
          · exact relay_ok hradio hfits _

/-- Whatever frame a station that works hears, it gets to an outcome. -/
theorem route_ok (hradio : s.radio.sendFault = none) (hseals : keys.provider.SealsAll)
    (frame : Bytes) (rssi : Int16) (now : Nat) :
    ∃ outcome, (s.route frame rssi now keys).1 = .ok outcome := by
  unfold route
  rcases hscreen : s.router.screen frame rssi now with ⟨result, router⟩
  cases result with
  | error reason => exact ⟨_, rfl⟩
  | ok p =>
    obtain ⟨hdecode, _⟩ := Router.screen_eq_ok_iff.mp (congrArg Prod.fst hscreen)
    exact dispatch_ok (s := { s with router := router }) hradio hseals
      (Packet.fits_of_decode hdecode) now

/-- No frame changes anything of the radio but what waits in the outbox. -/
theorem route_radio (s : Station) (frame : Bytes) (rssi : Int16) (now : Nat) (keys : KeyRing) :
    ∃ outbox, (s.route frame rssi now keys).2.radio = { s.radio with outbox := outbox } := by
  rcases s.route_cases frame rssi now keys with h | ⟨p, _, hserves⟩
  · rw [h]
    exact ⟨s.radio.outbox, rfl⟩
  · cases hserves.air with
    | silent hradio => exact ⟨s.radio.outbox, hradio⟩
    | aired q sent hpacket hencode hradio => exact ⟨_, hradio⟩

end Station
end Meshwork
