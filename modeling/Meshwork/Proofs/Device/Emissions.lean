import Meshwork.Proofs.Device.Setup
import Meshwork.Proofs.Station.Emissions

/-!
# What a device puts on the air

Every frame that a device hands to its radio has one of three reasons: it is a frame
that the device has just heard and that is on its way to others, a message of a
handshake that the device is part of, or a message for the mesh that the device makes
and seals itself. The first and the last are never mixed up with the second, and
nothing is sent on that has no hops left.
-/

namespace Meshwork
set_option autoImplicit false

/-! ## Messages of handshakes -/

/-- A message of a handshake as the node that makes it sends it. -/
structure Packet.HandshakeOf (node : NodeId) (q : Packet) : Prop where
  topic : q.topic.isInclusion = true
  source : q.source = node
  hopCount : q.hopCount = 0

namespace Party

/-- Whatever packet this is, it has not travelled yet. -/
def MakesNew {ε : Type} (result : Except ε Packet) : Prop := ∀ p, result = .ok p → p.hopCount = 0

variable {s : Party} {p reply : Packet} {now : UInt64}

theorem makesNew_error {ε : Type} (e : ε) : MakesNew (.error e : Except ε Packet) :=
  fun _ h => nomatch h

theorem makesNew_build (s : Party) (peer : NodeId) (topic : Topic)
    (payload : Bytes → Draws → Except CryptoError Bytes × Draws) :
    MakesNew (s.build peer topic payload).1 := by
  unfold build
  rcases Packet.create_cases s.inclusion.nodeId peer topic [] s.draws with
    ⟨e, hcreate⟩ | ⟨id, draws, hcreate⟩
  · rw [hcreate]
    exact makesNew_error _
  · rw [hcreate]
    simp only
    split
    · exact makesNew_error _
    · intro p hp
      cases hp
      rfl

theorem makesNew_buildSealed (s : Party) (peer : NodeId) (topic : Topic) (key : MeshKey)
    (plain : Bytes) : MakesNew (s.buildSealed peer topic key plain).1 :=
  makesNew_build s peer topic _

theorem makesNew_acceptRequest (s : Party) (peer : NodeId) (peerKey : Bytes.Block 32)
    (peerNonce : Bytes.Block 16) (now : UInt64) :
    MakesNew (s.acceptRequest peer peerKey peerNonce now).1 := by
  unfold acceptRequest
  simp only
  split
  · exact makesNew_error _
  · rename_i bootstrap _
    have hbuild := makesNew_build (s.newSession peer .awaitingOpen now).2 peer .includeResponse
      fun _ draws => (.ok (Inclusion.offer
        { (s.newSession peer .awaitingOpen now).1 with bootstrap := some bootstrap }), draws)
    generalize build _ _ _ _ = built at hbuild ⊢
    rcases built with ⟨result, after⟩
    cases result with
    | error e => exact makesNew_error e
    | ok reply => exact hbuild

theorem makesNew_onRequest (s : Party) (p : Packet) (now : UInt64) :
    MakesNew (s.onRequest p now).1 := by
  unfold onRequest
  split
  · exact makesNew_error _
  split
  · exact makesNew_error _
  split
  · exact makesNew_error _
  split
  · exact makesNew_error _
  split
  · exact makesNew_error _
  split
  · exact makesNew_error _
  · exact makesNew_acceptRequest s p.source _ _ now

theorem makesNew_acceptOpen (s : Party) (session : Session) (p : Packet) :
    MakesNew (s.acceptOpen session p).1 := by
  unfold acceptOpen
  split
  · exact makesNew_error _
  split
  · exact makesNew_error _
  split
  · exact makesNew_error _
  split
  · exact makesNew_error _
  · exact makesNew_buildSealed s p.source .includeConfirm _ _

theorem makesNew_onOpen (s : Party) (p : Packet) (now : UInt64) : MakesNew (s.onOpen p now).1 := by
  unfold onOpen
  split
  · exact makesNew_error _
  · rename_i session _ _
    have hmade := makesNew_acceptOpen s session p
    generalize s.acceptOpen session p = accepted at hmade ⊢
    rcases accepted with ⟨result, after⟩
    cases result with
    | error e => exact makesNew_error e
    | ok reply => exact hmade

theorem makesNew_acceptResponse (s : Party) (session : Session) (p : Packet) :
    MakesNew ((s.acceptResponse session p).1.map Prod.snd) := by
  unfold acceptResponse
  split
  · exact makesNew_error _
  split
  · exact makesNew_error _
  · rename_i bootstrap _
    have hbuild := makesNew_buildSealed s p.source .includeOpen bootstrap
      s.inclusion.nodeId.toBytes
    generalize s.buildSealed _ _ _ _ = built at hbuild ⊢
    rcases built with ⟨result, after⟩
    cases result with
    | error e => exact makesNew_error e
    | ok reply => exact hbuild

theorem makesNew_onResponse (s : Party) (p : Packet) (now : UInt64) :
    MakesNew (s.onResponse p now).1 := by
  unfold onResponse
  split
  · exact makesNew_error _
  split
  · exact makesNew_error _
  · rename_i session _ _
    have hmade := makesNew_acceptResponse s session p
    generalize s.acceptResponse session p = accepted at hmade ⊢
    rcases accepted with ⟨result, after⟩
    cases result with
    | error e => exact makesNew_error e
    | ok reply => exact hmade

theorem makesNew_onConfirm (s : Party) (p : Packet) : MakesNew (s.onConfirm p).1 := by
  unfold onConfirm
  split
  · exact makesNew_error _
  split
  · exact makesNew_error _
  split
  · exact makesNew_error _
  split
  · exact makesNew_error _
  · rename_i key _ _ keys _
    exact makesNew_buildSealed { s with keys := keys } p.source .includeSuccess key
      s.inclusion.nodeId.toBytes

theorem of_replied {result : Except InclusionError Packet × Party}
    (h : (replied result).1 = .ok (some reply)) : result.1 = .ok reply := by
  rcases result with ⟨result, after⟩
  cases result with
  | error e => cases h
  | ok made =>
    cases h
    rfl

theorem hopCount_of_handle (h : (s.handle p now).1 = .ok (some reply)) : reply.hopCount = 0 := by
  unfold handle at h
  split at h
  · cases h
  split at h
  · exact makesNew_onRequest s p now reply (of_replied h)
  · exact makesNew_onOpen s p now reply (of_replied h)
  · split at h
    · cases h
    · cases h
  · exact makesNew_onResponse s p now reply (of_replied h)
  · exact makesNew_onConfirm s p reply (of_replied h)
  · cases h

theorem hopCount_of_request (h : (s.request now).1 = .ok p) : p.hopCount = 0 := by
  unfold request at h
  split at h
  · cases h
  split at h
  · cases h
  split at h
  · cases h
  simp only at h
  rcases Packet.create_cases _ .broadcast .includeRequest _ _ with
    ⟨e, hcreate⟩ | ⟨id, draws, hcreate⟩
  · rw [hcreate] at h
    cases h
  · rw [hcreate] at h
    cases h
    rfl

theorem Handled.source {s' : Party} (h : Handled s p now (.ok (some reply)) s') :
    reply.source = s.inclusion.nodeId := by
  cases h with
  | opened draws session peerKey peerNonce bootstrap reply htopic hrole haccepting hsession hroom
      hkey hoffer hnew hderive hreply => exact hreply.source
  | confirmed draws session bootstrap key reply htopic haddressed hsession hstep hbootstrap hopen
      hkey hreply => exact hreply.source
  | answered draws session hubKey hubNonce bootstrap reply htopic haddressed hown hpeer hstep
      hoffer hderive hreply => exact hreply.source
  | joined draws session bootstrap key keys result htopic haddressed hown hpeer hstep hbootstrap
      hopen hinstall hresult =>
    rcases hresult with ⟨e, he⟩ | ⟨reply', heq, hreply, _⟩
    · cases he
    · cases heq
      exact hreply.source

theorem Requested.source {s' : Party} (h : Requested s now (.ok p) s') :
    p.source = s.inclusion.nodeId := by
  cases h with
  | asked draws session p hrole hstate hkey hown hnew hspeaks => exact hspeaks.source

theorem isInclusion_of_asked {topic asked : Topic} (h : askedTopic? topic = some asked) :
    topic.isInclusion = true := by
  cases topic with
  | includeResponse | includeOpen | includeConfirm | includeSuccess => rfl
  | _ => cases h

/-- What a party says in a handshake is its own. -/
theorem handshakeOf_handle (h : (s.handle p now).1 = .ok (some reply)) :
    reply.HandshakeOf s.inclusion.nodeId := by
  have hhandled := s.handled p now
  rw [h] at hhandled
  exact ⟨isInclusion_of_asked hhandled.topic, hhandled.source, hopCount_of_handle h⟩

theorem handshakeOf_request (h : (s.request now).1 = .ok p) :
    p.HandshakeOf s.inclusion.nodeId := by
  have hrequested := s.requested now
  rw [h] at hrequested
  exact ⟨by rw [hrequested.topic]; rfl, hrequested.source, hopCount_of_request h⟩

end Party

/-! ## What a radio is handed -/

/-- The radio has been handed these frames more, each of a packet with this property. -/
def Radio.Gains (P : Packet → Prop) (r r' : Radio) : Prop :=
  ∃ frames, r'.outbox = r.outbox ++ frames ∧
    ∀ frame ∈ frames, ∃ q, q.encode = .ok frame ∧ P q

namespace Radio

variable {P Q : Packet → Prop} {r r' r'' : Radio}

theorem gains_of_outbox (h : r'.outbox = r.outbox) : Gains P r r' :=
  ⟨[], by rw [h, List.append_nil], fun _ hframe => absurd hframe List.not_mem_nil⟩

theorem Gains.mono (h : Gains P r r') (hPQ : ∀ q, P q → Q q) : Gains Q r r' := by
  obtain ⟨frames, houtbox, hframes⟩ := h
  refine ⟨frames, houtbox, ?_⟩
  intro frame hframe
  obtain ⟨q, hencode, hpacket⟩ := hframes frame hframe
  exact ⟨q, hencode, hPQ q hpacket⟩

/-- Only the frames that wait to be taken matter. -/
theorem Gains.of_outbox (h : Gains P r r') (hsame : r''.outbox = r.outbox) : Gains P r'' r' := by
  obtain ⟨frames, houtbox, hframes⟩ := h
  exact ⟨frames, by rw [houtbox, hsame], hframes⟩

end Radio

theorem Station.Airs.gains {P : Packet → Prop} {s s' : Station} (h : Airs P s s') :
    s.radio.Gains P s'.radio := by
  cases h with
  | silent hradio => exact Radio.gains_of_outbox (congrArg Radio.outbox hradio)
  | aired q frame hpacket hencode hradio =>
    refine ⟨[frame], by rw [hradio], ?_⟩
    intro f hf
    rw [List.mem_singleton.mp hf]
    exact ⟨q, hencode, hpacket⟩

namespace Packet

/-- A packet that has passed the screen of a router, and is for others, with nothing
changed but the hop fields. -/
structure SentOn (config : Config) (p q : Packet) : Prop where
  source : p.source ≠ config.nodeId
  destination : p.destination ≠ config.nodeId
  plain : p.topic.isInclusion = false
  relays : config.relayEnabled = true
  count : q.hopCount.toNat = p.hopCount.toNat + 1
  within : q.hopCount ≤ config.maxHops
  lastHop : q.lastHop = config.nodeId
  same : q = p.copy q.hopCount q.lastHop q.nextHop

theorem Passing.sentOn {config : Config} {r : Router} {p q : Packet} (h : p.Passing r q)
    (hr : r.FitsConfig config) (hsource : p.source ≠ r.nodeId) : p.SentOn config q := by
  obtain ⟨nextHop, hsame⟩ := h.same
  have hwithin : p.hopCount.toNat < config.maxHops.toNat := by
    rw [← hr.maxHops]
    exact UInt8.lt_iff_toNat_lt.mp h.within
  have hcount : (p.hopCount + 1).toNat = p.hopCount.toNat + 1 := toNat_add_one_of_lt hwithin
  subst hsame
  exact {
    source := hr.nodeId ▸ hsource
    destination := hr.nodeId ▸ h.away
    plain := h.plain
    relays := hr.relayEnabled ▸ h.relays
    count := hcount
    within := UInt8.le_iff_toNat_le.mpr (hcount ▸ hwithin)
    lastHop := hr.nodeId
    same := rfl }

end Packet

namespace Device

variable {d m : Device} {draws : Draws} {config : Config} {p : Packet} {frame : Bytes}
  {now : UInt64} {operation : Operation} {deed : Deed}

/-! ## Frames that are handled -/

theorem gains_transmit {node : NodeId} (h : p.HandshakeOf node) (d : Device) (draws : Draws)
    (now : UInt64) : d.radio.Gains (·.HandshakeOf node)
      (Station.transmit { router := d.router, radio := d.radio, draws := draws } p
        now.toNat).2.radio := by
  refine (Station.airs_transmit _ p now.toNat).gains.mono ?_
  rintro q rfl
  exact ⟨h.topic, h.source, h.hopCount⟩

theorem gains_sendReply {node : NodeId} {reply : Option Packet}
    (h : ∀ p, reply = some p → p.HandshakeOf node) (d : Device) (now : UInt64) (draws : Draws) :
    d.radio.Gains (·.HandshakeOf node) (d.sendReply reply now draws).2.1.radio := by
  unfold sendReply
  cases reply with
  | none => exact Radio.gains_of_outbox rfl
  | some p =>
    have hsent := gains_transmit (h p rfl) d draws now
    simp only [atStation]
    generalize Station.transmit { router := d.router, radio := d.radio, draws := draws } p
      now.toNat = sent at hsent ⊢
    rcases sent with ⟨result, station⟩
    cases result with
    | error e => exact hsent
    | ok id => exact hsent

theorem gains_handleInclusion (d : Device) (p : Packet) (now : UInt64) (draws : Draws) :
    d.radio.Gains (·.HandshakeOf d.inclusion.nodeId) (d.handleInclusion p now draws).2.1.radio := by
  have hanswers : ∀ reply, (Party.handle
      { inclusion := d.inclusion, keys := d.keys, draws := draws } p now).1 = .ok (some reply) →
        reply.HandshakeOf d.inclusion.nodeId :=
    fun _ => Party.handshakeOf_handle
  unfold handleInclusion
  split
  · exact Radio.gains_of_outbox rfl
  simp only [asParty]
  generalize Party.handle { inclusion := d.inclusion, keys := d.keys, draws := draws } p now =
    handled at hanswers ⊢
  rcases handled with ⟨result, after⟩
  cases result with
  | error e => exact Radio.gains_of_outbox rfl
  | ok reply =>
    exact gains_sendReply (fun answer hanswer => hanswers answer (congrArg Except.ok hanswer))
      { d with inclusion := after.inclusion, keys := after.keys } now after.draws

/-- Why a device hands a packet to its radio. -/
inductive Emission (config : Config) (d : Device) (deed : Deed) (q : Packet) : Prop where
  /-- It has heard the packet just now, and sends it on. -/
  | relayed (operation : Operation) (m : Device) (frame : Bytes) (now : UInt64) (p : Packet)
      (router : Router) (hdeed : deed = .operate operation)
      (hheard : d.hearing operation = some (m, frame, now))
      (hadmitted : m.router.screen frame m.radio.rssi now.toNat = (.ok p, router))
      (hsent : p.SentOn config q)
  | handshake (h : q.HandshakeOf config.nodeId)
  | message (text : Bytes) (h : q.SealedBy config.nodeId d.keys text)

/-- What comes of a packet that has passed the screen. -/
theorem gains_handlePacket (d : Device) (p : Packet) (now : UInt64) (draws : Draws) :
    d.radio.Gains (fun q => q.HandshakeOf d.inclusion.nodeId ∨
      (∃ text, q.SealedBy d.router.nodeId d.keys text) ∨ p.Passing d.router q)
      (d.handlePacket p now draws).2.1.radio := by
  unfold handlePacket
  split
  · exact (d.gains_handleInclusion p now draws).mono fun _ => Or.inl
  · exact (Station.airs_dispatch { router := d.router, radio := d.radio, draws := draws } p
      now.toNat d.keys).gains.mono fun _ => Or.inr

/-- The device that hears a frame is the one before, but for what it has forgotten. -/
structure Hears (config : Config) (d m : Device) : Prop where
  outbox : m.radio.outbox = d.radio.outbox
  keys : m.keys = d.keys
  inclusion : m.inclusion.nodeId = config.nodeId
  router : m.router.FitsConfig config

theorem gains_heed (h : d.Hears config m) (hdeed : deed = .operate operation)
    (hheard : d.hearing operation = some (m, frame, now)) (draws : Draws) :
    d.radio.Gains (Emission config d deed) (m.heed frame now draws).radio := by
  have hscreen := m.router.alike_screen frame m.radio.rssi now.toNat
  unfold heed
  rcases hresult : m.router.screen frame m.radio.rssi now.toNat with ⟨result, router⟩
  rw [hresult] at hscreen
  cases result with
  | error reason => exact Radio.gains_of_outbox h.outbox
  | ok p =>
    have hsource := (Router.screen_eq_ok_iff.mp (congrArg Prod.fst hresult)).2.2.2
    have hrouter : router.FitsConfig config := h.router.of_alike hscreen
    rw [← hscreen.nodeId] at hsource
    refine Radio.Gains.of_outbox (r := m.radio) (Radio.Gains.mono
      (gains_handlePacket { m with router := router } p now draws) ?_) h.outbox.symm
    rintro q (hhandshake | ⟨text, hsealed⟩ | hpassing)
    · exact .handshake (h.inclusion ▸ hhandshake)
    · refine .message text ?_
      rw [← h.keys, ← hrouter.nodeId]
      exact hsealed
    · exact .relayed operation m frame now p router hdeed hheard hresult
        (hpassing.sentOn hrouter hsource)

theorem gains_processFrame (h : d.Hears config m) (hdeed : deed = .operate operation)
    (hheard : d.hearing operation = some (m, frame, now)) (draws : Draws) :
    d.radio.Gains (Emission config d deed) (m.processFrame frame now draws).2.1.radio := by
  have hheed := gains_heed h hdeed hheard draws
  rcases m.processFrame_cases frame now draws with hafter | ⟨hafter, _⟩
  · rw [hafter, radio_emitEvents]
    exact hheed
  · rw [hafter]
    exact hheed

theorem hears_of_hearing (h : Reachable config d)
    (hheard : d.hearing operation = some (m, frame, now)) : d.Hears config m := by
  cases operation with
  | processFrame heard time =>
    cases hheard
    exact ⟨rfl, rfl, h.regular.nodeId, h.fitsConfig.2⟩
  | poll time =>
    obtain ⟨storage, hemit⟩ := (d.expire time).emitEvents_eq
    obtain ⟨radio, rfl, houtbox, _⟩ := hearing_poll hheard
    have hsetup := (d.inclusion.checkTimeouts_setup time).trans h.regular.setup
    rw [hemit]
    exact ⟨houtbox, rfl, congrArg Inclusion.Setup.nodeId hsetup,
      h.fitsConfig.2.of_alike (d.router.forgets_sweep time.toNat).toAlike⟩
  | _ => cases hheard

theorem outbox_poll (h : d.hearing (.poll now) = none) (draws : Draws) :
    (d.poll now draws).2.1.radio.outbox = d.radio.outbox := by
  have hpolled := d.polled now draws
  generalize d.poll now draws = result at hpolled ⊢
  cases hpolled with
  | failed e hnone => exact congrArg Radio.outbox (d.expire now).radio_emitEvents
  | silent radio hnone hreceive => exact Radio.outbox_receive hreceive
  | heard m frame radio hm hsome hreceive =>
    rw [h] at hsome
    cases hsome

/-! ## Everything that can be done -/

theorem gains_send (d : Device) (destination : NodeId) (topic : Topic) (payload : Bytes)
    (now : UInt64) (draws : Draws) :
    d.radio.Gains (·.SealedBy d.router.nodeId d.keys payload)
      (d.send destination topic payload now draws).2.1.radio := by
  unfold send
  split
  · exact Radio.gains_of_outbox rfl
  split
  · exact Radio.gains_of_outbox rfl
  rename_i hplain
  split
  · exact Radio.gains_of_outbox rfl
  · exact (Station.airs_originate_sealed
      { router := d.router, radio := d.radio, draws := draws } destination payload now.toNat d.keys
      (Bool.not_eq_true _ ▸ hplain)).gains

theorem gains_leave (d : Device) (now : UInt64) (draws : Draws) :
    d.radio.Gains (·.SealedBy d.router.nodeId d.keys []) (d.leave now draws).2.1.radio := by
  unfold leave
  split
  · exact Radio.gains_of_outbox rfl
  split
  · exact Radio.gains_of_outbox rfl
  · have hbye := d.gains_send .broadcast .bye [] now draws
    change d.radio.Gains _
      (d.broadcast .bye [] now draws).2.1.forget.persistMembership.2.radio
    rw [radio_persistMembership]
    exact hbye

theorem gains_requestInclusion (d : Device) (now : UInt64) (draws : Draws) :
    d.radio.Gains (·.HandshakeOf d.inclusion.nodeId)
      (d.requestInclusion now draws).2.1.radio := by
  have hasks : ∀ p, (Party.request { inclusion := d.inclusion, keys := d.keys, draws := draws }
      now).1 = .ok p → p.HandshakeOf d.inclusion.nodeId := fun _ => Party.handshakeOf_request
  unfold requestInclusion
  simp only [asParty]
  generalize Party.request { inclusion := d.inclusion, keys := d.keys, draws := draws } now =
    requested at hasks ⊢
  rcases requested with ⟨result, after⟩
  cases result with
  | error e => exact Radio.gains_of_outbox rfl
  | ok p =>
    have hsent := gains_transmit (hasks p rfl)
      { d with inclusion := after.inclusion, keys := after.keys } after.draws now
    simp only [atStation]
    generalize Station.transmit _ p now.toNat = sent at hsent ⊢
    rcases sent with ⟨result, station⟩
    cases result with
    | error e => exact hsent
    | ok id => exact hsent

theorem gains_operate (h : Reachable config d) (operation : Operation) (draws : Draws) :
    (d.radioFor (.operate operation)).Gains (Emission config d (.operate operation))
      (operation.perform (d, draws)).1.radio := by
  have hnode : d.router.nodeId = config.nodeId := h.fitsConfig.2.nodeId
  have hself : d.inclusion.nodeId = config.nodeId := h.regular.nodeId
  cases operation with
  | poll now =>
    rcases d.poll_cases now draws with ⟨hdeaf, _⟩ | ⟨m, frame, hheard, _, hafter⟩
    · exact Radio.gains_of_outbox (outbox_poll hdeaf draws)
    · change d.radio.Gains _ (d.poll now draws).2.1.radio
      rw [hafter]
      exact gains_processFrame (hears_of_hearing h hheard) rfl hheard draws
  | processFrame frame now =>
    have hheard : d.hearing (.processFrame frame now) = some (d, frame, now) := rfl
    exact gains_processFrame (hears_of_hearing h hheard) rfl hheard draws
  | send destination topic payload now =>
    exact (d.gains_send destination topic payload now draws).mono
      fun q hq => .message payload (hnode ▸ hq)
  | requestInclusion now =>
    exact (d.gains_requestInclusion now draws).mono fun q hq => .handshake (hself ▸ hq)
  | enableInclusion =>
    obtain ⟨accepting, keys, storage, henable⟩ := d.enableInclusion_cases draws
    change d.radio.Gains _ (d.enableInclusion draws).2.1.radio
    rw [henable]
    exact Radio.gains_of_outbox rfl
  | disableInclusion => exact Radio.gains_of_outbox rfl
  | provision key =>
    obtain ⟨inclusion, keys, storage, hprovision⟩ := d.provision_eq key
    change d.radio.Gains _ (d.provision key).2.radio
    rw [hprovision]
    exact Radio.gains_of_outbox rfl
  | leave now => exact (d.gains_leave now draws).mono fun q hq => .message [] (hnode ▸ hq)
  | shutdown =>
    obtain ⟨storage, hshutdown⟩ := d.shutdown_eq
    change d.radio.Gains _ d.shutdown.2.radio
    rw [hshutdown]
    exact Radio.gains_of_outbox rfl
  | surround radio storage => exact Radio.gains_of_outbox rfl

/-- Whatever is done with a device, every frame that it hands to its radio is that of
a packet which it has just heard and may send on, which belongs to a handshake of its
own, or which it has sealed itself under the mesh key. -/
theorem emissions_accounted (h : Reachable config d) (deed : Deed) (draws : Draws) :
    ∃ frames, (deed.perform (d, draws)).1.radio.outbox = (d.radioFor deed).outbox ++ frames ∧
      ∀ frame ∈ frames, ∃ q, q.encode = .ok frame ∧ Emission config d deed q := by
  change (d.radioFor deed).Gains (Emission config d deed) (deed.perform (d, draws)).1.radio
  cases deed with
  | operate operation => exact gains_operate h operation draws
  | init now =>
    obtain ⟨state, keys, table, hinit⟩ := d.init_cases now
    change d.radio.Gains _ (d.init now).2.radio
    rw [hinit]
    exact Radio.gains_of_outbox rfl
  | listen =>
    unfold Deed.perform listen
    cases d.router.listen with
    | error e => exact Radio.gains_of_outbox rfl
    | ok router => exact Radio.gains_of_outbox rfl
  | listenInclusion =>
    unfold Deed.perform listenInclusion
    cases d.hasInclusionHandler with
    | true => exact Radio.gains_of_outbox rfl
    | false => exact Radio.gains_of_outbox rfl

/-! ## A hub that sends -/

/-- A hub as it is created, and with the mesh key that it has drawn. -/
def speakingStart : Device where
  config := .hub ⟨1⟩
  radio := {}
  storage := {}
  router := .create (.hub ⟨1⟩)
  inclusion := .create (.hub ⟨1⟩)
  keys := { provider := .transparent }

def speakingDraws : Draws := { source := fun _ _ => [] }

def speakingHub : Device :=
  (Deed.perform (speakingStart, speakingDraws) (.operate .enableInclusion)).1

/-- A message for everybody. -/
def speakingDeed : Deed := .operate (.send .broadcast (.application 0x20) [4, 2] 0)

theorem speakingHub_reachable : Reachable (.hub ⟨1⟩) speakingHub :=
  .deed (.operate .enableInclusion) speakingDraws (.create {} {} .transparent rfl)

theorem emissions_accounted_sent :
    ∃ frame q, (speakingDeed.perform (speakingHub, speakingDraws)).1.radio.outbox = [frame] ∧
      q.encode = .ok frame ∧ Emission (.hub ⟨1⟩) speakingHub speakingDeed q := by
  obtain ⟨frames, houtbox, hframes⟩ :=
    emissions_accounted speakingHub_reachable speakingDeed speakingDraws
  have hlength : (speakingDeed.perform (speakingHub, speakingDraws)).1.radio.outbox.length = 1 :=
    rfl
  rw [houtbox] at hlength
  obtain ⟨frame, hframe⟩ := List.length_eq_one_iff.mp hlength
  obtain ⟨q, hencode, hemission⟩ := hframes frame (by
    rw [show frames = [frame] from hframe]
    exact List.mem_singleton.mpr rfl)
  exact ⟨frame, q, houtbox.trans hframe, hencode, hemission⟩

end Device
end Meshwork
