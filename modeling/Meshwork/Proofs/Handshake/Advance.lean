import Meshwork.Proofs.Handshake.Fields

/-!
# Messages in their turn

A party that gets the message its handshake waits for goes on with it, and what
it answers can be built if its payload can be made.
-/

namespace Meshwork
set_option autoImplicit false

namespace Packet

theorem create_of_fits (source destination : NodeId) {topic : Topic} {payload : Bytes}
    (htopic : topic.isCanonical = true) (hfits : payload.length ≤ maxPayload) (draws : Draws) :
    ∃ id after, create source destination topic payload draws =
      (.ok (fresh source destination topic payload id), after) := by
  have hcheck : check topic payload = .ok () := by
    rw [check, htopic, if_neg (by decide), if_neg (Nat.not_lt.mpr hfits)]
  unfold create
  rw [hcheck]
  exact ⟨_, _, rfl⟩

end Packet

namespace Party

variable {s : Party} {p : Packet} {session : Session}

theorem isAddressed_of_destination (h : p.destination = s.inclusion.nodeId) :
    isAddressed s.inclusion p = true := by
  rw [isAddressed, h, beq_self_eq_true, Bool.true_or]

/-! ## What can be built -/

theorem build_of_ok (s : Party) (peer : NodeId) {topic : Topic}
    (htopic : topic.isCanonical = true)
    {payload : Bytes → Draws → Except CryptoError Bytes × Draws}
    (hpayload : ∀ aad draws, ∃ bs after, payload aad draws = (.ok bs, after)) :
    ∃ reply before after, s.build peer topic payload = (.ok reply, s.withDraws after) ∧
      s.Speaks peer topic reply ∧
      payload reply.associatedData before = (.ok reply.payload, after) := by
  have hfits : ([] : Bytes).length ≤ Packet.maxPayload := Nat.zero_le _
  obtain ⟨id, before, hcreate⟩ :=
    Packet.create_of_fits s.inclusion.nodeId peer htopic hfits s.draws
  let header := Packet.fresh s.inclusion.nodeId peer topic [] id
  obtain ⟨bs, after, hbs⟩ := hpayload header.associatedData before
  refine ⟨{ header with payload := bs }, before, after, ?_, ⟨rfl, rfl, rfl⟩, hbs⟩
  unfold build
  rw [hcreate]
  simp only
  rw [hbs]

theorem buildSealed_of_seals (s : Party) (peer : NodeId) {topic : Topic}
    (htopic : topic.isCanonical = true) (key : MeshKey) (plain : Bytes)
    (hseals : ∀ aad draws, ∃ blob after,
      s.keys.provider.sealText key aad plain draws = (.ok blob, after)) :
    ∃ reply draws, s.buildSealed peer topic key plain = (.ok reply, s.withDraws draws) ∧
      s.Speaks peer topic reply ∧
      Seals s.keys.provider key reply.associatedData plain reply.payload := by
  obtain ⟨reply, before, after, hbuild, hspeaks, hpayload⟩ := s.build_of_ok peer htopic hseals
  exact ⟨reply, after, hbuild, hspeaks, before, after, hpayload⟩

/-! ## The device -/

theorem request_of_idle (now : UInt64) (hrole : s.inclusion.role = .standard)
    (hstate : s.inclusion.state ≠ .included) (hkey : s.keys.key = none)
    (hown : s.inclusion.own = none) : ∃ request, (s.request now).1 = .ok request := by
  have hmember : ¬(s.inclusion.state = .included ∨ s.keys.hasKey = true) := by
    rw [KeyRing.hasKey, hkey]
    exact fun h => h.elim hstate (by decide)
  unfold request
  rw [if_neg (Decidable.not_not.mpr hrole), if_neg hmember, hown, if_neg (by decide)]
  cases hnew : s.newSession .broadcast .awaitingResponse now with
  | mk session drawn =>
    have hfits : (Inclusion.offer session).length ≤ Packet.maxPayload := by
      rw [Inclusion.length_offer]
      decide
    obtain ⟨id, after, hcreate⟩ := Packet.create_of_fits drawn.inclusion.nodeId .broadcast
      (show Topic.includeRequest.isCanonical = true by decide) hfits drawn.draws
    simp only
    rw [hcreate]
    exact ⟨_, rfl⟩

theorem ownSessionFor_of_own (hown : s.inclusion.own = some session)
    (hpeer : session.peer.isBroadcast = true ∨ session.peer = p.source) :
    s.inclusion.ownSessionFor p.source p.topic = .ok session := by
  unfold Inclusion.ownSessionFor
  rw [hown]
  refine if_pos (Bool.or_eq_true_iff.mpr ?_)
  rcases hpeer with hall | hone
  · exact Or.inl hall
  · exact Or.inr (beq_iff_eq.mpr hone)

theorem handle_response (now : UInt64) (htopic : p.topic = .includeResponse)
    (haddressed : p.destination = s.inclusion.nodeId) (hown : s.inclusion.own = some session)
    (hpeer : session.peer.isBroadcast = true ∨ session.peer = p.source)
    (hstep : session.step = .awaitingResponse) {hubKey : Bytes.Block 32}
    {hubNonce : Bytes.Block 16}
    (hoffer : Inclusion.parseOffer p.payload = .ok (hubKey, hubNonce)) {bootstrap : MeshKey}
    (hderive : s.deriveBootstrap session.keyPair hubKey session.nonce hubNonce
      s.inclusion.nodeId p.source = .ok bootstrap)
    (hseals : ∀ aad draws, ∃ blob after, s.keys.provider.sealText bootstrap aad
      s.inclusion.nodeId.toBytes draws = (.ok blob, after)) :
    ∃ reply draws,
      s.handle p now =
        (.ok (some reply),
          { s with
            inclusion :=
              { s.inclusion with
                own := some
                  { session with
                    peer := p.source
                    bootstrap := some bootstrap
                    step := .awaitingConfirm
                    deadline := now + s.inclusion.timeout } }
            draws := draws }) ∧
      s.Speaks p.source .includeOpen reply ∧
      Seals s.keys.provider bootstrap reply.associatedData s.inclusion.nodeId.toBytes
        reply.payload := by
  obtain ⟨reply, draws, hbuild, hspeaks, hsealed⟩ := s.buildSealed_of_seals p.source
    (show Topic.includeOpen.isCanonical = true by decide) bootstrap s.inclusion.nodeId.toBytes
    hseals
  refine ⟨reply, draws, ?_, hspeaks, hsealed⟩
  have haccept : s.acceptResponse session p = (.ok (bootstrap, reply), s.withDraws draws) := by
    unfold acceptResponse
    rw [hoffer]
    simp only
    rw [hderive]
    simp only
    rw [hbuild]
  unfold handle
  rw [isAddressed_of_destination haddressed, if_neg (by decide), htopic]
  simp only
  rw [onResponse, ownSessionFor_of_own hown hpeer]
  simp only
  rw [if_neg (Decidable.not_not.mpr hstep), haccept]
  rfl

/-- Once a confirmation opens there is no way back. -/
theorem handle_confirm (now : UInt64) (htopic : p.topic = .includeConfirm)
    (haddressed : p.destination = s.inclusion.nodeId) (hown : s.inclusion.own = some session)
    (hpeer : session.peer.isBroadcast = true ∨ session.peer = p.source)
    (hstep : session.step = .awaitingConfirm) {bootstrap key : MeshKey}
    (hbootstrap : session.bootstrap = some bootstrap)
    (hopen : s.keys.provider.unsealText bootstrap p.associatedData p.payload = .ok key.toBytes)
    (hkey : s.keys.key = none) {keys : KeyRing}
    (hkeys : keys = { s.keys with key := some key, installs := s.keys.installs + 1 })
    {result : Except InclusionError Packet} {built : Party}
    (hbuilt : ({ s with keys := keys } : Party).buildSealed p.source .includeSuccess key
      s.inclusion.nodeId.toBytes = (result, built)) :
    s.handle p now =
      (result.map some,
        { s with
          inclusion := join s.inclusion p.source
          keys := keys
          draws := built.draws }) := by
  have hconfirm : s.openConfirm session p = .ok key := by
    unfold openConfirm
    rw [hbootstrap]
    simp only
    rw [hopen]
    simp only
    rw [MeshKey.ofBytes_toBytes]
  have hinstall : s.keys.install key = .ok keys := by
    unfold KeyRing.install
    rw [hkey, hkeys]
  unfold handle
  rw [isAddressed_of_destination haddressed, if_neg (by decide), htopic]
  simp only
  rw [onConfirm, ownSessionFor_of_own hown hpeer]
  simp only
  rw [if_neg (Decidable.not_not.mpr hstep), hconfirm]
  simp only
  rw [hinstall]
  simp only
  rcases ({ s with keys := keys } : Party).buildSealed_cases p.source .includeSuccess key
      s.inclusion.nodeId.toBytes with
    ⟨e, draws, hbuild⟩ | ⟨reply, draws, hbuild, _⟩
  · rw [hbuild]
    cases hbuilt.symm.trans hbuild
    rfl
  · rw [hbuild]
    cases hbuilt.symm.trans hbuild
    rfl

/-! ## The hub -/

theorem handle_request (now : UInt64) (htopic : p.topic = .includeRequest)
    (haddressed : isAddressed s.inclusion p = true) (hrole : s.inclusion.role = .hub)
    (haccepting : s.inclusion.accepting = true)
    (hsession : s.inclusion.session? p.source = none)
    (hroom : s.inclusion.sessions.length < s.inclusion.maxSessions)
    (hkey : s.keys.hasKey = true) {peerKey : Bytes.Block 32} {peerNonce : Bytes.Block 16}
    (hoffer : Inclusion.parseOffer p.payload = .ok (peerKey, peerNonce))
    (hnew : session = (s.newSession p.source .awaitingOpen now).1) {bootstrap : MeshKey}
    (hderive : s.deriveBootstrap session.keyPair peerKey peerNonce session.nonce p.source
      s.inclusion.nodeId = .ok bootstrap) :
    ∃ reply draws,
      s.handle p now =
        (.ok (some reply),
          { s with
            inclusion :=
              ({ s.inclusion with
                  included := s.inclusion.included.filter (· != p.source) } :
                Inclusion).putSession p.source { session with bootstrap := some bootstrap }
            draws := draws }) ∧
      s.Speaks p.source .includeResponse reply ∧ reply.payload = Inclusion.offer session := by
  let drawn := (s.newSession p.source .awaitingOpen now).2
  let offered : Bytes → Draws → Except CryptoError Bytes × Draws := fun _ draws =>
    (.ok (Inclusion.offer { session with bootstrap := some bootstrap }), draws)
  have hoffered : ∀ aad draws, ∃ bs after, offered aad draws = (.ok bs, after) :=
    fun _ draws => ⟨_, draws, rfl⟩
  obtain ⟨reply, before, after, hbuild, hspeaks, hpayload⟩ := drawn.build_of_ok p.source
    (show Topic.includeResponse.isCanonical = true by decide) hoffered
  refine ⟨reply, after, ?_, ⟨hspeaks.source, hspeaks.destination, hspeaks.topic⟩,
    (Except.ok.inj (congrArg Prod.fst hpayload)).symm⟩
  have hpair : s.newSession p.source .awaitingOpen now = (session, drawn) := by
    rw [hnew]
  have hdrawn : drawn.deriveBootstrap session.keyPair peerKey peerNonce session.nonce p.source
      drawn.inclusion.nodeId = .ok bootstrap := hderive
  have hnone : s.inclusion.hasSession p.source = false := by
    rw [Inclusion.hasSession, hsession]
    rfl
  have hrequest : s.onRequest p now = s.acceptRequest p.source peerKey peerNonce now := by
    unfold onRequest
    rw [if_neg (Decidable.not_not.mpr hrole), haccepting, if_neg (by decide), hnone,
      if_neg (by decide), if_neg (Nat.not_le.mpr hroom), hkey, if_neg (by decide), hoffer]
  unfold handle
  rw [haddressed, if_neg (by decide), htopic]
  simp only
  rw [hrequest, acceptRequest, hpair]
  simp only
  rw [hdrawn]
  simp only
  rw [hbuild]
  rfl

theorem handle_open (now : UInt64) (htopic : p.topic = .includeOpen)
    (haddressed : p.destination = s.inclusion.nodeId)
    (hsession : s.inclusion.session? p.source = some session)
    (hstep : session.step = .awaitingOpen) {bootstrap key : MeshKey}
    (hbootstrap : session.bootstrap = some bootstrap)
    (hopen : s.keys.provider.unsealText bootstrap p.associatedData p.payload =
      .ok p.source.toBytes)
    (hkey : s.keys.key = some key)
    (hseals : ∀ aad draws, ∃ blob after,
      s.keys.provider.sealText bootstrap aad key.toBytes draws = (.ok blob, after)) :
    ∃ reply draws,
      s.handle p now =
        (.ok (some reply),
          { s with
            inclusion := s.inclusion.putSession p.source
              { session with
                step := .awaitingSuccess
                deadline := now + s.inclusion.timeout }
            draws := draws }) ∧
      s.Speaks p.source .includeConfirm reply ∧
      Seals s.keys.provider bootstrap reply.associatedData key.toBytes reply.payload := by
  obtain ⟨reply, draws, hbuild, hspeaks, hsealed⟩ := s.buildSealed_of_seals p.source
    (show Topic.includeConfirm.isCanonical = true by decide) bootstrap key.toBytes hseals
  refine ⟨reply, draws, ?_, hspeaks, hsealed⟩
  have haccept : s.acceptOpen session p = (.ok reply, s.withDraws draws) := by
    unfold acceptOpen
    rw [hbootstrap]
    simp only
    rw [hopen]
    simp only
    rw [if_neg (Decidable.not_not.mpr rfl), hkey]
    exact hbuild
  have hexpect : s.inclusion.expectStep p.source .awaitingOpen p.topic =
      (.ok session, s.inclusion) := by
    unfold Inclusion.expectStep
    rw [hsession]
    exact if_pos hstep
  unfold handle
  rw [isAddressed_of_destination haddressed, if_neg (by decide), htopic]
  simp only
  rw [onOpen, hexpect]
  simp only
  rw [haccept]
  rfl

theorem handle_success (now : UInt64) (htopic : p.topic = .includeSuccess)
    (haddressed : p.destination = s.inclusion.nodeId)
    (hsession : s.inclusion.session? p.source = some session)
    (hstep : session.step = .awaitingSuccess) {key : MeshKey} (hkey : s.keys.key = some key)
    (hopen : s.keys.provider.unsealText key p.associatedData p.payload = .ok p.source.toBytes) :
    s.handle p now = (.ok none, { s with inclusion := takeIn s.inclusion p.source }) := by
  have hsuccess : s.openSuccess p = .ok p.source.toBytes := by
    unfold openSuccess
    rw [hkey]
    simp only
    rw [hopen]
  have hexpect : s.inclusion.expectStep p.source .awaitingSuccess p.topic =
      (.ok session, s.inclusion) := by
    unfold Inclusion.expectStep
    rw [hsession]
    exact if_pos hstep
  unfold handle
  rw [isAddressed_of_destination haddressed, if_neg (by decide), htopic]
  simp only
  rw [onSuccess, hexpect]
  simp only
  rw [hsuccess]
  simp only
  rw [if_pos trivial]

end Party
end Meshwork
