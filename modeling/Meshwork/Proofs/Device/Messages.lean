import Meshwork.Proofs.Device.Reachable
import Meshwork.Proofs.Packet.Codec

/-!
# What a device seals and what it opens

A device seals the messages that it sends and the answers that it gives on its own,
both with headers that name it as their source, and the messages of handshakes,
whose topics are no others'. What it opens is what it hears.
-/

namespace Meshwork
set_option autoImplicit false

/-! ## Headers -/

namespace Packet

/-- The data that a payload is sealed with tell the header. -/
theorem associatedData_inj {p q : Packet} (hp : p.topic.isCanonical = true)
    (hq : q.topic.isCanonical = true) (h : p.associatedData = q.associatedData) :
    p.source = q.source ∧ p.destination = q.destination ∧ p.topic = q.topic ∧
      p.packetId = q.packetId := by
  simp only [associatedData, List.append_assoc] at h
  obtain ⟨hsource, h⟩ := List.append_inj h (by simp)
  obtain ⟨hdestination, h⟩ := List.append_inj h (by simp)
  obtain ⟨htopic, hid⟩ := List.cons.inj h
  replace hid : Bytes.bigEndian 4 p.packetId.toNat = Bytes.bigEndian 4 q.packetId.toNat := hid
  refine ⟨NodeId.toBytes_inj hsource, NodeId.toBytes_inj hdestination,
    Topic.eq_of_toByte_eq hp hq htopic, ?_⟩
  rw [← Bytes.word_bigEndian p.packetId, ← Bytes.word_bigEndian q.packetId, hid]

theorem isCanonical_of_create (source destination : NodeId) (topic : Topic) (payload : Bytes)
    (draws : Draws) :
    ∀ p, (create source destination topic payload draws).1 = .ok p → topic.isCanonical = true := by
  intro p h
  unfold create check at h
  cases hcanonical : topic.isCanonical with
  | true => rfl
  | false =>
    rw [hcanonical] at h
    cases h

theorem isCanonical_of_decode {frame : Bytes} {p : Packet} (h : decode frame = .ok p) :
    p.topic.isCanonical = true :=
  (encode_eq_ok_iff.mp (decode_eq_ok_iff_encode.mp h)).1

end Packet

namespace Topic

theorem isCanonical_of_isInclusion {t : Topic} (h : t.isInclusion = true) :
    t.isCanonical = true := by
  cases t with
  | reserved value => cases h
  | application value => cases h
  | _ => rfl

end Topic

namespace Station

variable {s : Station} {destination : NodeId} {topic : Topic} {payload : Bytes} {keys : KeyRing}
  {p : Packet}

/-- A message as a node composes it, sealed with its own header. -/
structure Composed (s : Station) (receiver : NodeId) (about : Topic) (text : Bytes) (keys : KeyRing)
    (p : Packet) : Prop where
  source : p.source = s.router.nodeId
  destination : p.destination = receiver
  topic : p.topic = about
  canonical : p.topic.isCanonical = true
  opened : p.topic.isInclusion = false → ∃ key, keys.key = some key ∧
    Seals keys.provider key p.associatedData text p.payload

theorem composed (h : (s.compose destination topic payload keys).1 = .ok p) :
    s.Composed destination topic payload keys p := by
  unfold compose at h
  have hcanonical := Packet.isCanonical_of_create s.router.nodeId destination topic [] s.draws
  rcases Packet.create_cases s.router.nodeId destination topic [] s.draws with
    ⟨e, hcreate⟩ | ⟨id, draws, hcreate⟩
  · rw [hcreate] at h
    cases h
  rw [hcreate] at h hcanonical
  have hseal : ∀ blob after, sealPayload (.fresh s.router.nodeId destination topic [] id) payload
      keys draws = (.ok blob, after) → topic.isInclusion = false → ∃ key, keys.key = some key ∧
        Seals keys.provider key
          (Packet.fresh s.router.nodeId destination topic [] id).associatedData payload blob := by
    intro blob after hblob htopic
    unfold sealPayload at hblob
    rw [if_neg (by rw [Packet.fresh, htopic]; decide)] at hblob
    obtain ⟨key, hkey, hseal⟩ := KeyRing.sealText_eq_ok hblob
    exact ⟨key, hkey, draws, after, hseal⟩
  simp only at h
  generalize sealPayload _ payload keys draws = result at h hseal
  rcases result with ⟨blob, after⟩
  cases blob with
  | error e => cases h
  | ok blob =>
    simp only at h
    split at h
    · cases h
    · cases h
      exact ⟨rfl, rfl, rfl, hcanonical _ rfl, hseal blob after rfl⟩

end Station

namespace Device

variable {d m : Device} {draws : Draws} {deed : Deed} {operation : Operation} {frame : Bytes}
  {now : UInt64} {p q : Packet} {text : Bytes}

/-! ## What a device hears -/

theorem of_hearing (h : d.hearing operation = some (m, frame, now)) :
    d.router.Quiet m.router ∧ m.keys = d.keys := by
  cases operation with
  | processFrame heard time =>
    cases h
    exact ⟨Router.Quiet.refl _, rfl⟩
  | poll time =>
    rcases d.poll_cases time { source := fun _ _ => [] } with
      ⟨hnone, _⟩ | ⟨m', frame', hsome, hwoken, _⟩
    · rw [hnone] at h
      cases h
    · rw [hsome] at h
      cases h
      exact ⟨hwoken.router, hwoken.keys⟩
  | _ => cases h

/-! ## What a device seals -/

/-- The messages that a device makes of a text for all of the mesh, whether or not
the radio takes them. -/
inductive Originates (d : Device) (draws : Draws) : Deed → Packet → Bytes → Prop where
  | sent {destination : NodeId} {topic : Topic} {text : Bytes} {now : UInt64} {p : Packet}
      (hcanonical : topic.isCanonical = true) (htopic : topic.isInclusion = false)
      (hstate : d.state = .included)
      (hcompose : (Station.compose { router := d.router, radio := d.radio, draws := draws }
        destination topic text d.keys).1 = .ok p) :
      Originates d draws (.operate (.send destination topic text now)) p text
  | left {now : UInt64} {p : Packet} (hrole : d.config.role ≠ .hub) (hstate : d.state = .included)
      (hcompose : (Station.compose { router := d.router, radio := d.radio, draws := draws }
        .broadcast .bye [] d.keys).1 = .ok p) :
      Originates d draws (.operate (.leave now)) p []
  /-- A message for this device is answered where its topic asks for it. -/
  | answered {operation : Operation} {m : Device} {frame : Bytes} {now : UInt64} {q p : Packet}
      {router delivered : Router} {reply : Topic}
      (hheard : d.hearing operation = some (m, frame, now))
      (hscreen : m.router.screen frame m.radio.rssi now.toNat = (.ok q, router))
      (htopic : q.topic.isInclusion = false) (haddressed : q.destination = router.nodeId)
      (hdeliver : router.deliver q m.keys = (.ok (), delivered))
      (hreply : q.topic.reply? = some reply)
      (hcompose : (Station.compose { router := delivered, radio := m.radio, draws := draws }
        q.source reply (Station.replyBody q reply) m.keys).1 = .ok p) :
      Originates d draws (.operate operation) p (Station.replyBody q reply)

/-- The answers that a device gives in handshakes. -/
inductive Replies (d : Device) (draws : Draws) : Deed → Packet → Prop where
  | handled {operation : Operation} {m : Device} {frame : Bytes} {now : UInt64} {q p : Packet}
      {router : Router}
      (hheard : d.hearing operation = some (m, frame, now))
      (hscreen : m.router.screen frame m.radio.rssi now.toNat = (.ok q, router))
      (htopic : q.topic.isInclusion = true)
      (haddressed : q.destination = m.nodeId ∨ q.isBroadcast = true)
      (hhandle : (Party.handle { inclusion := m.inclusion, keys := m.keys, draws := draws } q
        now).1 = .ok (some p)) :
      Replies d draws (.operate operation) p

/-- All that a device seals: what key it takes, the header, the text, and the blob
that it gets. -/
inductive Seals (d : Device) (draws : Draws) (deed : Deed) (key : MeshKey) :
    Bytes → Bytes → Bytes → Prop where
  | message {p : Packet} {text : Bytes} (hkey : d.keys.key = some key)
      (horiginates : d.Originates draws deed p text) :
      Seals d draws deed key p.associatedData text p.payload
  | handshake {p : Packet} {text : Bytes} (hreplies : d.Replies draws deed p)
      (hseals : Meshwork.Seals d.keys.provider key p.associatedData text p.payload) :
      Seals d draws deed key p.associatedData text p.payload

/-- A frame that a device hears carries a blob that opens under its mesh key. -/
def Opens (d : Device) (deed : Deed) (key : MeshKey) (aad text blob : Bytes) : Prop :=
  d.keys.key = some key ∧ ∃ operation m frame now p, deed = .operate operation ∧
    d.hearing operation = some (m, frame, now) ∧ Packet.decode frame = .ok p ∧
    aad = p.associatedData ∧ blob = p.payload ∧
    d.keys.provider.unsealText key aad blob = .ok text

theorem Originates.composed (h : d.Originates draws deed p text) :
    ∃ (s : Station) (destination : NodeId) (topic : Topic), s.router.nodeId = d.router.nodeId ∧
      topic.isInclusion = false ∧ s.Composed destination topic text d.keys p := by
  cases h with
  | sent hcanonical htopic hstate hcompose =>
    exact ⟨_, _, _, rfl, htopic, Station.composed hcompose⟩
  | left hrole hstate hcompose => exact ⟨_, _, _, rfl, rfl, Station.composed hcompose⟩
  | @answered operation m frame now q p router delivered reply hheard hscreen htopic haddressed
      hdeliver hreply hcompose =>
    obtain ⟨hquiet, hkeys⟩ := of_hearing hheard
    have hscreened := m.router.quiet_screen frame m.radio.rssi now.toNat
    rw [hscreen] at hscreened
    have hnode : delivered.nodeId = router.nodeId := by
      have hcases := router.deliver_cases m.keys htopic
      rw [hdeliver] at hcases
      rcases hcases with hsame | hhands
      · exact hsame.nodeId
      · exact hhands.nodeId
    have hplain : reply.isInclusion = false := by
      cases hq : q.topic with
      | ping | cmd =>
        rw [hq] at hreply
        cases hreply
        rfl
      | _ =>
        rw [hq] at hreply
        cases hreply
    rw [← hkeys]
    exact ⟨_, _, _, hnode.trans (hscreened.nodeId.trans hquiet.nodeId), hplain,
      Station.composed hcompose⟩

/-- A message names the device that it is of. -/
theorem Originates.header (h : d.Originates draws deed p text) :
    p.source = d.router.nodeId ∧ p.topic.isCanonical = true := by
  obtain ⟨s, destination, topic, hnode, _, hcomposed⟩ := h.composed
  exact ⟨hcomposed.source.trans hnode, hcomposed.canonical⟩

theorem Replies.topic (h : d.Replies draws deed p) : p.topic.isInclusion = true := by
  cases h with
  | @handled operation m frame now q p router hheard hscreen htopic haddressed hhandle =>
    have hhandled := Party.handled
      { inclusion := m.inclusion, keys := m.keys, draws := draws } q now
    rw [hhandle] at hhandled
    have hasked := hhandled.topic
    cases hp : p.topic with
    | includeResponse | includeOpen | includeConfirm | includeSuccess => rfl
    | _ =>
      rw [hp] at hasked
      cases hasked

/-- What is said to be sealed is what the provider seals. -/
theorem Seals.provider {key : MeshKey} {aad blob : Bytes}
    (h : d.Seals draws deed key aad text blob) :
    Meshwork.Seals d.keys.provider key aad text blob := by
  cases h with
  | message hkey horiginates =>
    obtain ⟨s, destination, topic, _, htopic, hcomposed⟩ := horiginates.composed
    obtain ⟨key', hkey', hseals⟩ := hcomposed.opened (hcomposed.topic ▸ htopic)
    rw [hkey] at hkey'
    cases hkey'
    exact hseals
  | handshake hreplies hseals => exact hseals

/-! ## What a device hands over -/

theorem router_processFrame (d : Device) (frame : Bytes) (now : UInt64) (draws : Draws) :
    (d.processFrame frame now draws).2.1.router = (d.heed frame now draws).router := by
  rcases d.processFrame_cases frame now draws with h | ⟨h, _⟩
  · obtain ⟨storage, hemit⟩ := (d.heed frame now draws).emitEvents_eq
    rw [h, hemit]
  · rw [h]

theorem router_of_hearing (h : d.hearing operation = some (m, frame, now)) :
    (operation.perform (d, draws)).1.router = (m.heed frame now draws).router := by
  cases operation with
  | processFrame heard time =>
    cases h
    exact d.router_processFrame frame now draws
  | poll time =>
    change (d.poll time draws).2.1.router = _
    rcases d.poll_cases time draws with ⟨hnone, _⟩ | ⟨m', frame', hsome, _, hafter⟩
    · rw [hnone] at h
      cases h
    · rw [hsome] at h
      cases h
      rw [hafter]
      exact m.router_processFrame frame now draws
  | _ => cases h

theorem quiet_send (d : Device) (destination : NodeId) (topic : Topic) (payload : Bytes)
    (now : UInt64) (draws : Draws) :
    d.router.Quiet (d.send destination topic payload now draws).2.1.router := by
  unfold send
  split
  · exact Router.Quiet.refl _
  · split
    · exact Router.Quiet.refl _
    · split
      · exact Router.Quiet.refl _
      · exact Station.quiet_originate { router := d.router, radio := d.radio, draws := draws }
          destination topic payload now.toNat d.keys

theorem quiet_leave (d : Device) (now : UInt64) (draws : Draws) :
    d.router.Quiet (d.leave now draws).2.1.router := by
  unfold leave
  split
  · exact Router.Quiet.refl _
  · split
    · exact Router.Quiet.refl _
    · have hsend := d.quiet_send .broadcast .bye [] now draws
      unfold broadcast
      generalize d.send .broadcast .bye [] now draws = sent at hsend ⊢
      rcases sent with ⟨result, after, drawn⟩
      change d.router.Quiet after.forget.persistMembership.2.router
      rw [router_persistMembership]
      exact hsend

/-- A device that hears nothing hands nothing over. -/
theorem quiet_of_deaf (h : d.hearing operation = none) :
    d.router.Quiet (operation.perform (d, draws)).1.router := by
  cases operation with
  | poll now =>
    rcases d.poll_cases now draws with ⟨_, hwoken⟩ | ⟨m, frame, hsome, _, _⟩
    · exact hwoken.router
    · rw [hsome] at h
      cases h
  | processFrame frame now => cases h
  | send destination topic payload now => exact d.quiet_send destination topic payload now draws
  | requestInclusion now =>
    obtain ⟨_, after, router, radio, _, hquiet, hrequest⟩ := d.requestInclusion_cases now draws
    change d.router.Quiet (d.requestInclusion now draws).2.1.router
    rw [hrequest]
    exact hquiet
  | enableInclusion =>
    obtain ⟨accepting, keys, storage, henable⟩ := d.enableInclusion_cases draws
    change d.router.Quiet (d.enableInclusion draws).2.1.router
    rw [henable]
    exact Router.Quiet.refl _
  | disableInclusion => exact Router.Quiet.refl _
  | provision key =>
    obtain ⟨inclusion, keys, storage, hprovision⟩ := d.provision_eq key
    change d.router.Quiet (d.provision key).2.router
    rw [hprovision]
    exact Router.Quiet.refl _
  | leave now => exact d.quiet_leave now draws
  | shutdown =>
    obtain ⟨storage, hshutdown⟩ := d.shutdown_eq
    change d.router.Quiet d.shutdown.2.router
    rw [hshutdown]
    exact Router.Quiet.refl _
  | surround radio storage => exact Router.Quiet.refl _

theorem perform_cases (d : Device) (draws : Draws) (operation : Operation) :
    d.router.Quiet (operation.perform (d, draws)).1.router ∨
      ∃ m frame now p, d.hearing operation = some (m, frame, now) ∧
        Packet.decode frame = .ok p ∧
        d.router.Hands p d.keys (operation.perform (d, draws)).1.router := by
  cases hheard : d.hearing operation with
  | none => exact Or.inl (quiet_of_deaf hheard)
  | some heard =>
    rcases heard with ⟨m, frame, now⟩
    obtain ⟨hquiet, hkeys⟩ := of_hearing hheard
    rw [router_of_hearing hheard]
    cases m.heeded frame now draws with
    | routed hinclusion hsame hrouter =>
      rcases hrouter with hstill | ⟨p, hdecode, hhands⟩
      · exact Or.inl (hquiet.trans hstill)
      · rw [hkeys] at hhands
        exact Or.inr ⟨m, frame, now, p, rfl, hdecode, hquiet.hands hhands⟩
    | handshake p result after hdecode hhandled hinclusion hkeys hrouter =>
      exact Or.inl (hquiet.trans hrouter)

/-- Nothing that is done with a device hands anything over to its application but
what the device hears and opens then. -/
theorem deed_cases (d : Device) (draws : Draws) (deed : Deed) :
    d.router.Quiet (deed.perform (d, draws)).1.router ∨
      ∃ p key text, p.topic.isCanonical = true ∧
        d.Opens deed key p.associatedData text p.payload ∧
        p.topic.isInclusion = false ∧ p.topic.isReserved = false ∧
        (deed.perform (d, draws)).1.router.nodeId = d.router.nodeId ∧
        (deed.perform (d, draws)).1.router.handed =
          d.router.handed ++ [Delivery.ofPacket p text] := by
  cases deed with
  | operate operation =>
    rcases d.perform_cases draws operation with hquiet | ⟨m, frame, now, p, hheard, hdecode, hhands⟩
    · exact Or.inl hquiet
    · obtain ⟨key, text, hkey, hopen, hhanded⟩ := hhands.opened
      refine Or.inr ⟨p, key, text, Packet.isCanonical_of_decode hdecode, ⟨hkey, ?_⟩,
        hhands.inclusion, hhands.reserved, hhands.nodeId, hhanded⟩
      exact ⟨operation, m, frame, now, p, rfl, hheard, hdecode, rfl, rfl, hopen⟩
  | init now =>
    obtain ⟨state, keys, table, hinit⟩ := d.init_cases now
    left
    change d.router.Quiet (d.init now).2.router
    rw [hinit]
    exact ⟨rfl, rfl⟩
  | listen =>
    left
    unfold Deed.perform listen Router.listen
    cases d.router.hasHandler with
    | true => exact Router.Quiet.refl _
    | false => exact ⟨rfl, rfl⟩
  | listenInclusion =>
    left
    unfold Deed.perform listenInclusion
    cases d.hasInclusionHandler with
    | true => exact Router.Quiet.refl _
    | false => exact Router.Quiet.refl _

end Device
end Meshwork
