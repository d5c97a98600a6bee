import Meshwork.Inclusion.Handshake
import Meshwork.Proofs.Crypto.Sealing
import Meshwork.Proofs.KeyRing

/-!
# The steps of a handshake

All that a party can do with a message, in eight cases: it refuses, gives up a
session, or takes one of the five steps, the last of which may lack its answer.
Every invariant of handshakes is a case analysis over these.
-/

namespace Meshwork
set_option autoImplicit false

namespace Packet

theorem create_cases (source destination : NodeId) (topic : Topic) (payload : Bytes)
    (draws : Draws) :
    (∃ e, create source destination topic payload draws = (.error e, draws)) ∨
      ∃ id after, create source destination topic payload draws =
        (.ok (fresh source destination topic payload id), after) := by
  unfold create
  cases check topic payload with
  | error e => exact Or.inl ⟨e, rfl⟩
  | ok done => exact Or.inr ⟨_, _, rfl⟩

end Packet

namespace Party

/-- A packet of this party to a peer. -/
structure Speaks (s : Party) (peer : NodeId) (topic : Topic) (reply : Packet) : Prop where
  source : reply.source = s.inclusion.nodeId
  destination : reply.destination = peer
  topic : reply.topic = topic

inductive Handled (s : Party) (p : Packet) (now : UInt64) :
    Except InclusionError (Option Packet) → Party → Prop where
  | refused (e : InclusionError) (draws : Draws) :
      Handled s p now (.error e) (s.withDraws draws)
  | peerFailed (e : InclusionError) (draws : Draws) (session : Session)
      (hsession : s.inclusion.session? p.source = some session) :
      Handled s p now (.error e) ((s.withDraws draws).failPeer p.source e)
  | ownFailed (e : InclusionError) (draws : Draws) (session : Session)
      (hown : s.inclusion.own = some session)
      (hpeer : session.peer.isBroadcast = true ∨ session.peer = p.source) :
      Handled s p now (.error e) ((s.withDraws draws).failOwn e)
  /-- A hub answers a request. -/
  | opened (draws : Draws) (session : Session) (peerKey : Bytes.Block 32)
      (peerNonce : Bytes.Block 16) (bootstrap : MeshKey) (reply : Packet)
      (htopic : p.topic = .includeRequest)
      (hrole : s.inclusion.role = .hub)
      (haccepting : s.inclusion.accepting = true)
      (hsession : s.inclusion.session? p.source = none)
      (hroom : s.inclusion.sessions.length < s.inclusion.maxSessions)
      (hkey : s.keys.hasKey = true)
      (hoffer : Inclusion.parseOffer p.payload = .ok (peerKey, peerNonce))
      (hnew : session = (s.newSession p.source .awaitingOpen now).1)
      (hderive : s.deriveBootstrap session.keyPair peerKey peerNonce session.nonce p.source
        s.inclusion.nodeId = .ok bootstrap)
      (hreply : s.Speaks p.source .includeResponse reply)
      (hpayload : reply.payload = Inclusion.offer session) :
      Handled s p now (.ok (some reply))
        { s with
          inclusion :=
            ({ s.inclusion with
                included := s.inclusion.included.filter (· != p.source) } : Inclusion).putSession
              p.source { session with bootstrap := some bootstrap }
          draws := draws }
  /-- A hub answers an opening with its mesh key. -/
  | confirmed (draws : Draws) (session : Session) (bootstrap key : MeshKey) (reply : Packet)
      (htopic : p.topic = .includeOpen)
      (haddressed : p.destination = s.inclusion.nodeId)
      (hsession : s.inclusion.session? p.source = some session)
      (hstep : session.step = .awaitingOpen)
      (hbootstrap : session.bootstrap = some bootstrap)
      (hopen : s.keys.provider.unsealText bootstrap p.associatedData p.payload =
        .ok p.source.toBytes)
      (hkey : s.keys.key = some key)
      (hreply : s.Speaks p.source .includeConfirm reply)
      (hpayload : Seals s.keys.provider bootstrap reply.associatedData key.toBytes
        reply.payload) :
      Handled s p now (.ok (some reply))
        { s with
          inclusion := s.inclusion.putSession p.source
            { session with
              step := .awaitingSuccess
              deadline := now + s.inclusion.timeout }
          draws := draws }
  /-- A hub takes a peer in. -/
  | completed (session : Session) (key : MeshKey)
      (htopic : p.topic = .includeSuccess)
      (haddressed : p.destination = s.inclusion.nodeId)
      (hsession : s.inclusion.session? p.source = some session)
      (hstep : session.step = .awaitingSuccess)
      (hkey : s.keys.key = some key)
      (hopen : s.keys.provider.unsealText key p.associatedData p.payload =
        .ok p.source.toBytes) :
      Handled s p now (.ok none) { s with inclusion := takeIn s.inclusion p.source }
  /-- A device answers a response with an opening. -/
  | answered (draws : Draws) (session : Session) (hubKey : Bytes.Block 32)
      (hubNonce : Bytes.Block 16) (bootstrap : MeshKey) (reply : Packet)
      (htopic : p.topic = .includeResponse)
      (haddressed : p.destination = s.inclusion.nodeId)
      (hown : s.inclusion.own = some session)
      (hpeer : session.peer.isBroadcast = true ∨ session.peer = p.source)
      (hstep : session.step = .awaitingResponse)
      (hoffer : Inclusion.parseOffer p.payload = .ok (hubKey, hubNonce))
      (hderive : s.deriveBootstrap session.keyPair hubKey session.nonce hubNonce
        s.inclusion.nodeId p.source = .ok bootstrap)
      (hreply : s.Speaks p.source .includeOpen reply)
      (hpayload : Seals s.keys.provider bootstrap reply.associatedData s.inclusion.nodeId.toBytes
        reply.payload) :
      Handled s p now (.ok (some reply))
        { s with
          inclusion :=
            { s.inclusion with
              own := some
                { session with
                  peer := p.source
                  bootstrap := some bootstrap
                  step := .awaitingConfirm
                  deadline := now + s.inclusion.timeout } }
          draws := draws }
  /-- A device installs the key of a confirmation. -/
  | joined (draws : Draws) (session : Session) (bootstrap key : MeshKey) (keys : KeyRing)
      (result : Except InclusionError (Option Packet))
      (htopic : p.topic = .includeConfirm)
      (haddressed : p.destination = s.inclusion.nodeId)
      (hown : s.inclusion.own = some session)
      (hpeer : session.peer.isBroadcast = true ∨ session.peer = p.source)
      (hstep : session.step = .awaitingConfirm)
      (hbootstrap : session.bootstrap = some bootstrap)
      (hopen : s.keys.provider.unsealText bootstrap p.associatedData p.payload =
        .ok key.toBytes)
      (hinstall : s.keys.install key = .ok keys)
      (hresult : (∃ e, result = .error e) ∨
        ∃ reply, result = .ok (some reply) ∧ s.Speaks p.source .includeSuccess reply ∧
          Seals s.keys.provider key reply.associatedData s.inclusion.nodeId.toBytes
            reply.payload) :
      Handled s p now result
        { s with inclusion := join s.inclusion p.source, keys := keys, draws := draws }

variable {s : Party} {p : Packet} {now : UInt64}

/-! ## What a party makes -/

theorem build_cases (s : Party) (peer : NodeId) (topic : Topic)
    (payload : Bytes → Draws → Except CryptoError Bytes × Draws) :
    (∃ e draws, s.build peer topic payload = (.error e, s.withDraws draws)) ∨
      ∃ reply before after, s.build peer topic payload = (.ok reply, s.withDraws after) ∧
        s.Speaks peer topic reply ∧
        payload reply.associatedData before = (.ok reply.payload, after) := by
  unfold build
  rcases Packet.create_cases s.inclusion.nodeId peer topic [] s.draws with
    ⟨e, hcreate⟩ | ⟨id, before, hcreate⟩
  · rw [hcreate]
    exact Or.inl ⟨.rejected e.message, s.draws, rfl⟩
  · rw [hcreate]
    let header := Packet.fresh s.inclusion.nodeId peer topic [] id
    simp only
    cases hpayload : payload header.associatedData before with
    | mk result after =>
      cases result with
      | error e => exact Or.inl ⟨.crypto e, after, rfl⟩
      | ok bs =>
        exact Or.inr ⟨{ header with payload := bs }, before, after, rfl, ⟨rfl, rfl, rfl⟩, hpayload⟩

theorem buildSealed_cases (s : Party) (peer : NodeId) (topic : Topic) (key : MeshKey)
    (plain : Bytes) :
    (∃ e draws, s.buildSealed peer topic key plain = (.error e, s.withDraws draws)) ∨
      ∃ reply draws, s.buildSealed peer topic key plain = (.ok reply, s.withDraws draws) ∧
        s.Speaks peer topic reply ∧
        Seals s.keys.provider key reply.associatedData plain reply.payload := by
  rcases s.build_cases peer topic fun aad draws => s.keys.provider.sealText key aad plain draws with
    hfailed | ⟨reply, before, after, hbuild, hspeaks, hpayload⟩
  · exact Or.inl hfailed
  · exact Or.inr ⟨reply, after, hbuild, hspeaks, before, after, hpayload⟩

/-! ## The hub -/

theorem handled_acceptRequest (htopic : p.topic = .includeRequest)
    (hrole : s.inclusion.role = .hub) (haccepting : s.inclusion.accepting = true)
    (hsession : s.inclusion.session? p.source = none)
    (hroom : s.inclusion.sessions.length < s.inclusion.maxSessions)
    (hkey : s.keys.hasKey = true) {peerKey : Bytes.Block 32} {peerNonce : Bytes.Block 16}
    (hoffer : Inclusion.parseOffer p.payload = .ok (peerKey, peerNonce)) :
    Handled s p now (replied (s.acceptRequest p.source peerKey peerNonce now)).1
      (replied (s.acceptRequest p.source peerKey peerNonce now)).2 := by
  unfold acceptRequest
  cases hnew : s.newSession p.source .awaitingOpen now with
  | mk session drawn =>
    simp only
    have hdrawn : drawn = s.withDraws drawn.draws := by
      rw [← show (s.newSession p.source .awaitingOpen now).2 = drawn from congrArg Prod.snd hnew]
      rfl
    have hfirst : session = (s.newSession p.source .awaitingOpen now).1 :=
      (congrArg Prod.fst hnew).symm
    rw [hdrawn]
    cases hderive : (s.withDraws drawn.draws).deriveBootstrap session.keyPair peerKey peerNonce
        session.nonce p.source (s.withDraws drawn.draws).inclusion.nodeId with
    | error e => exact Handled.refused (.crypto e) drawn.draws
    | ok bootstrap =>
      simp only
      rcases (s.withDraws drawn.draws).build_cases p.source .includeResponse
          (fun _ draws => (.ok (Inclusion.offer { session with bootstrap := some bootstrap }),
            draws)) with
        ⟨e, after, hbuild⟩ | ⟨reply, before, after, hbuild, hspeaks, hpayload⟩
      · rw [hbuild]
        exact Handled.refused e after
      · rw [hbuild]
        refine Handled.opened after session peerKey peerNonce bootstrap reply htopic hrole
          haccepting hsession hroom hkey hoffer hfirst hderive
          ⟨hspeaks.source, hspeaks.destination, hspeaks.topic⟩ ?_
        exact (Except.ok.inj (congrArg Prod.fst hpayload)).symm

theorem handled_onRequest (htopic : p.topic = .includeRequest) :
    Handled s p now (replied (s.onRequest p now)).1 (replied (s.onRequest p now)).2 := by
  unfold onRequest
  by_cases hrole : s.inclusion.role ≠ .hub
  · rw [if_pos hrole]
    exact Handled.refused _ s.draws
  rw [if_neg hrole]
  replace hrole := Decidable.not_not.mp hrole
  cases haccepting : s.inclusion.accepting with
  | false => exact Handled.refused .notInInclusionMode s.draws
  | true =>
    rw [if_neg (by decide)]
    cases hsession : s.inclusion.session? p.source with
    | some session =>
      rw [if_pos (by rw [Inclusion.hasSession, hsession]; rfl)]
      exact Handled.peerFailed _ s.draws session hsession
    | none =>
      rw [if_neg (by rw [Inclusion.hasSession, hsession]; decide)]
      by_cases hroom : s.inclusion.maxSessions ≤ s.inclusion.sessions.length
      · rw [if_pos hroom]
        exact Handled.refused .sessionLimit s.draws
      · rw [if_neg hroom]
        cases hkey : s.keys.hasKey with
        | false => exact Handled.refused (.key .missing) s.draws
        | true =>
          rw [if_neg (by decide)]
          cases hoffer : Inclusion.parseOffer p.payload with
          | error e => exact Handled.refused e s.draws
          | ok offer =>
            exact handled_acceptRequest htopic hrole haccepting hsession
              (Nat.lt_of_not_le hroom) hkey hoffer

theorem expectStep_cases (c : Inclusion) (peer : NodeId) (step : Step) (topic : Topic) :
    (∃ session, c.session? peer = some session ∧ session.step = step ∧
        c.expectStep peer step topic = (.ok session, c)) ∨
      (∃ e session, c.session? peer = some session ∧
        c.expectStep peer step topic = (.error e, c.failPeer peer e)) ∨
      ∃ e, c.expectStep peer step topic = (.error e, c) := by
  unfold Inclusion.expectStep
  cases hsession : c.session? peer with
  | none => exact Or.inr (Or.inr ⟨_, rfl⟩)
  | some session =>
    simp only
    by_cases hstep : session.step = step
    · rw [if_pos hstep]
      exact Or.inl ⟨session, rfl, hstep, rfl⟩
    · rw [if_neg hstep]
      exact Or.inr (Or.inl ⟨_, session, rfl, rfl⟩)

theorem acceptOpen_cases (s : Party) (session : Session) (p : Packet) :
    (∃ e draws, s.acceptOpen session p = (.error e, s.withDraws draws)) ∨
      ∃ bootstrap key reply draws, s.acceptOpen session p = (.ok reply, s.withDraws draws) ∧
        session.bootstrap = some bootstrap ∧
        s.keys.provider.unsealText bootstrap p.associatedData p.payload =
          .ok p.source.toBytes ∧
        s.keys.key = some key ∧ s.Speaks p.source .includeConfirm reply ∧
        Seals s.keys.provider bootstrap reply.associatedData key.toBytes reply.payload := by
  unfold acceptOpen
  cases session.bootstrap with
  | none => exact Or.inl ⟨_, s.draws, rfl⟩
  | some bootstrap =>
    simp only
    cases hopen : s.keys.provider.unsealText bootstrap p.associatedData p.payload with
    | error e => exact Or.inl ⟨_, s.draws, rfl⟩
    | ok claimed =>
      simp only
      by_cases hclaimed : claimed ≠ p.source.toBytes
      · rw [if_pos hclaimed]
        exact Or.inl ⟨_, s.draws, rfl⟩
      rw [if_neg hclaimed]
      cases hkey : s.keys.key with
      | none => exact Or.inl ⟨_, s.draws, rfl⟩
      | some key =>
        rcases s.buildSealed_cases p.source .includeConfirm bootstrap key.toBytes with
          ⟨e, draws, hbuild⟩ | ⟨reply, draws, hbuild, hspeaks, hpayload⟩
        · exact Or.inl ⟨e, draws, hbuild⟩
        · exact Or.inr ⟨bootstrap, key, reply, draws, hbuild, rfl,
            hopen.trans (congrArg Except.ok (Decidable.not_not.mp hclaimed)), rfl, hspeaks,
            hpayload⟩

theorem handled_onOpen (htopic : p.topic = .includeOpen)
    (haddressed : p.destination = s.inclusion.nodeId) :
    Handled s p now (replied (s.onOpen p now)).1 (replied (s.onOpen p now)).2 := by
  unfold onOpen
  rcases expectStep_cases s.inclusion p.source .awaitingOpen p.topic with
    ⟨session, hsession, hstep, hexpect⟩ | ⟨e, session, hsession, hexpect⟩ | ⟨e, hexpect⟩
  · rw [hexpect]
    simp only
    rcases s.acceptOpen_cases session p with
      ⟨e, draws, haccept⟩ |
        ⟨bootstrap, key, reply, draws, haccept, hbootstrap, hopen, hkey, hspeaks, hpayload⟩
    · rw [haccept]
      exact Handled.peerFailed e draws session hsession
    · rw [haccept]
      exact Handled.confirmed draws session bootstrap key reply htopic haddressed hsession hstep
        hbootstrap hopen hkey hspeaks hpayload
  · rw [hexpect]
    exact Handled.peerFailed e s.draws session hsession
  · rw [hexpect]
    exact Handled.refused e s.draws

theorem openSuccess_eq_ok {claimed : Bytes} (h : s.openSuccess p = .ok claimed) :
    ∃ key, s.keys.key = some key ∧
      s.keys.provider.unsealText key p.associatedData p.payload = .ok claimed := by
  unfold openSuccess at h
  cases hkey : s.keys.key with
  | none =>
    rw [hkey] at h
    cases h
  | some key =>
    rw [hkey] at h
    simp only at h
    cases hopen : s.keys.provider.unsealText key p.associatedData p.payload with
    | error e =>
      rw [hopen] at h
      cases h
    | ok plain =>
      rw [hopen] at h
      cases h
      exact ⟨key, rfl, hopen⟩

theorem handled_onSuccess (htopic : p.topic = .includeSuccess)
    (haddressed : p.destination = s.inclusion.nodeId) :
    (∃ s', s.onSuccess p = (.ok (), s') ∧ Handled s p now (.ok none) s') ∨
      ∃ e s', s.onSuccess p = (.error e, s') ∧ Handled s p now (.error e) s' := by
  unfold onSuccess
  rcases expectStep_cases s.inclusion p.source .awaitingSuccess p.topic with
    ⟨session, hsession, hstep, hexpect⟩ | ⟨e, session, hsession, hexpect⟩ | ⟨e, hexpect⟩
  · rw [hexpect]
    simp only
    cases hsuccess : s.openSuccess p with
    | error e => exact Or.inr ⟨e, _, rfl, .peerFailed e s.draws session hsession⟩
    | ok claimed =>
      simp only
      by_cases hclaimed : claimed = p.source.toBytes
      · rw [if_pos hclaimed]
        obtain ⟨key, hkey, hopen⟩ := openSuccess_eq_ok hsuccess
        refine Or.inl ⟨_, rfl, ?_⟩
        exact .completed session key htopic haddressed hsession hstep hkey
          (hopen.trans (congrArg Except.ok hclaimed))
      · rw [if_neg hclaimed]
        exact Or.inr ⟨_, _, rfl, .peerFailed _ s.draws session hsession⟩
  · rw [hexpect]
    exact Or.inr ⟨e, _, rfl, .peerFailed e s.draws session hsession⟩
  · rw [hexpect]
    exact Or.inr ⟨e, _, rfl, .refused e s.draws⟩

/-! ## The device -/

theorem ownSessionFor_cases (c : Inclusion) (hub : NodeId) (topic : Topic) :
    (∃ session, c.own = some session ∧
        (session.peer.isBroadcast = true ∨ session.peer = hub) ∧
        c.ownSessionFor hub topic = .ok session) ∨
      ∃ e, c.ownSessionFor hub topic = .error e := by
  unfold Inclusion.ownSessionFor
  cases hown : c.own with
  | none => exact Or.inr ⟨_, rfl⟩
  | some session =>
    simp only
    by_cases hpeer : (session.peer.isBroadcast || session.peer == hub) = true
    · rw [if_pos hpeer]
      refine Or.inl ⟨session, rfl, ?_, rfl⟩
      rcases Bool.or_eq_true_iff.mp hpeer with h | h
      · exact Or.inl h
      · exact Or.inr (eq_of_beq h)
    · rw [if_neg hpeer]
      exact Or.inr ⟨_, rfl⟩

theorem acceptResponse_cases (s : Party) (session : Session) (p : Packet) :
    (∃ e draws, s.acceptResponse session p = (.error e, s.withDraws draws)) ∨
      ∃ hubKey hubNonce bootstrap reply draws,
        s.acceptResponse session p = (.ok (bootstrap, reply), s.withDraws draws) ∧
        Inclusion.parseOffer p.payload = .ok (hubKey, hubNonce) ∧
        s.deriveBootstrap session.keyPair hubKey session.nonce hubNonce s.inclusion.nodeId
          p.source = .ok bootstrap ∧
        s.Speaks p.source .includeOpen reply ∧
        Seals s.keys.provider bootstrap reply.associatedData s.inclusion.nodeId.toBytes
          reply.payload := by
  unfold acceptResponse
  cases Inclusion.parseOffer p.payload with
  | error e => exact Or.inl ⟨e, s.draws, rfl⟩
  | ok offer =>
    rcases offer with ⟨hubKey, hubNonce⟩
    simp only
    cases hderive : s.deriveBootstrap session.keyPair hubKey session.nonce hubNonce
        s.inclusion.nodeId p.source with
    | error e => exact Or.inl ⟨_, s.draws, rfl⟩
    | ok bootstrap =>
      simp only
      rcases s.buildSealed_cases p.source .includeOpen bootstrap s.inclusion.nodeId.toBytes with
        ⟨e, draws, hbuild⟩ | ⟨reply, draws, hbuild, hspeaks, hpayload⟩
      · rw [hbuild]
        exact Or.inl ⟨e, draws, rfl⟩
      · rw [hbuild]
        exact Or.inr ⟨hubKey, hubNonce, bootstrap, reply, draws, rfl, rfl, hderive, hspeaks,
          hpayload⟩

theorem handled_onResponse (htopic : p.topic = .includeResponse)
    (haddressed : p.destination = s.inclusion.nodeId) :
    Handled s p now (replied (s.onResponse p now)).1 (replied (s.onResponse p now)).2 := by
  unfold onResponse
  rcases ownSessionFor_cases s.inclusion p.source p.topic with
    ⟨session, hown, hpeer, hexpect⟩ | ⟨e, hexpect⟩
  · rw [hexpect]
    simp only
    by_cases hstep : session.step ≠ .awaitingResponse
    · rw [if_pos hstep]
      exact Handled.ownFailed _ s.draws session hown hpeer
    rw [if_neg hstep]
    rcases s.acceptResponse_cases session p with
      ⟨e, draws, haccept⟩ |
        ⟨hubKey, hubNonce, bootstrap, reply, draws, haccept, hoffer, hderive, hspeaks, hpayload⟩
    · rw [haccept]
      exact Handled.ownFailed e draws session hown hpeer
    · rw [haccept]
      exact Handled.answered draws session hubKey hubNonce bootstrap reply htopic haddressed hown
        hpeer (Decidable.not_not.mp hstep) hoffer hderive hspeaks hpayload
  · rw [hexpect]
    exact Handled.refused e s.draws

theorem openConfirm_eq_ok {session : Session} {key : MeshKey}
    (h : s.openConfirm session p = .ok key) :
    ∃ bootstrap, session.bootstrap = some bootstrap ∧
      s.keys.provider.unsealText bootstrap p.associatedData p.payload = .ok key.toBytes := by
  unfold openConfirm at h
  cases hbootstrap : session.bootstrap with
  | none =>
    rw [hbootstrap] at h
    cases h
  | some bootstrap =>
    rw [hbootstrap] at h
    simp only at h
    cases hopen : s.keys.provider.unsealText bootstrap p.associatedData p.payload with
    | error e =>
      rw [hopen] at h
      cases h
    | ok raw =>
      rw [hopen] at h
      simp only at h
      cases hraw : MeshKey.ofBytes raw with
      | error e =>
        rw [hraw] at h
        cases h
      | ok found =>
        rw [hraw] at h
        cases h
        refine ⟨bootstrap, rfl, ?_⟩
        rw [MeshKey.toBytes_of_ofBytes hraw]
        exact hopen

theorem handled_onConfirm (htopic : p.topic = .includeConfirm)
    (haddressed : p.destination = s.inclusion.nodeId) :
    Handled s p now (replied (s.onConfirm p)).1 (replied (s.onConfirm p)).2 := by
  unfold onConfirm
  rcases ownSessionFor_cases s.inclusion p.source p.topic with
    ⟨session, hown, hpeer, hexpect⟩ | ⟨e, hexpect⟩
  · rw [hexpect]
    simp only
    by_cases hstep : session.step ≠ .awaitingConfirm
    · rw [if_pos hstep]
      exact Handled.ownFailed _ s.draws session hown hpeer
    rw [if_neg hstep]
    replace hstep := Decidable.not_not.mp hstep
    cases hconfirm : s.openConfirm session p with
    | error e => exact Handled.ownFailed e s.draws session hown hpeer
    | ok key =>
      obtain ⟨bootstrap, hbootstrap, hopen⟩ := openConfirm_eq_ok hconfirm
      simp only
      cases hinstall : s.keys.install key with
      | error e => exact Handled.ownFailed _ s.draws session hown hpeer
      | ok keys =>
        have hprovider : keys.provider = s.keys.provider := by
          rw [(KeyRing.eq_of_install hinstall).2]
        simp only
        rcases ({ s with keys := keys } : Party).buildSealed_cases p.source .includeSuccess key
            s.inclusion.nodeId.toBytes with
          ⟨e, draws, hbuild⟩ | ⟨reply, draws, hbuild, hspeaks, hpayload⟩
        · rw [hbuild]
          exact Handled.joined draws session bootstrap key keys _ htopic haddressed hown hpeer
            hstep hbootstrap hopen hinstall (Or.inl ⟨e, rfl⟩)
        · rw [hbuild]
          rw [show ({ s with keys := keys } : Party).keys.provider = s.keys.provider from
            hprovider] at hpayload
          exact Handled.joined draws session bootstrap key keys _ htopic haddressed hown hpeer
            hstep hbootstrap hopen hinstall
            (Or.inr ⟨reply, rfl, ⟨hspeaks.source, hspeaks.destination, hspeaks.topic⟩, hpayload⟩)
  · rw [hexpect]
    exact Handled.refused e s.draws

/-! ## Every message -/

theorem destination_of_isAddressed {c : Inclusion} (h : isAddressed c p = true)
    (htopic : p.topic ≠ .includeRequest) : p.destination = c.nodeId := by
  unfold isAddressed at h
  rcases Bool.or_eq_true_iff.mp h with h | h
  · exact eq_of_beq h
  · exact absurd (eq_of_beq (Bool.and_eq_true_iff.mp h).2) htopic

/-- Whatever arrives, one of the eight cases is what happens. -/
theorem handled (s : Party) (p : Packet) (now : UInt64) :
    Handled s p now (s.handle p now).1 (s.handle p now).2 := by
  unfold handle
  cases haddressed : isAddressed s.inclusion p with
  | false => exact Handled.refused _ s.draws
  | true =>
    rw [if_neg (by decide)]
    cases htopic : p.topic with
    | includeRequest => exact handled_onRequest htopic
    | includeOpen =>
      exact handled_onOpen htopic
        (destination_of_isAddressed haddressed (by rw [htopic]; decide))
    | includeSuccess =>
      simp only
      rcases s.handled_onSuccess htopic
          (destination_of_isAddressed haddressed (by rw [htopic]; decide)) with
        ⟨s', hresult, hhandled⟩ | ⟨e, s', hresult, hhandled⟩
      · rw [hresult]
        exact hhandled
      · rw [hresult]
        exact hhandled
    | includeResponse =>
      exact handled_onResponse htopic
        (destination_of_isAddressed haddressed (by rw [htopic]; decide))
    | includeConfirm =>
      exact handled_onConfirm htopic
        (destination_of_isAddressed haddressed (by rw [htopic]; decide))
    | _ => exact Handled.refused _ s.draws

/-! ## The request -/

/-- All that can come of asking for inclusion. -/
inductive Requested (s : Party) (now : UInt64) : Except MeshError Packet → Party → Prop where
  | refused (e : MeshError) (draws : Draws) : Requested s now (.error e) (s.withDraws draws)
  | asked (draws : Draws) (session : Session) (p : Packet)
      (hrole : s.inclusion.role = .standard)
      (hstate : s.inclusion.state ≠ .included)
      (hkey : s.keys.hasKey = false)
      (hown : s.inclusion.own = none)
      (hnew : session = (s.newSession .broadcast .awaitingResponse now).1)
      (hspeaks : s.Speaks .broadcast .includeRequest p)
      (hpayload : p.payload = Inclusion.offer session) :
      Requested s now (.ok p)
        { s with
          inclusion := { s.inclusion with own := some session, state := .inclusionPending }
          draws := draws }

theorem requested (s : Party) (now : UInt64) :
    Requested s now (s.request now).1 (s.request now).2 := by
  unfold request
  by_cases hrole : s.inclusion.role ≠ .standard
  · rw [if_pos hrole]
    exact Requested.refused _ s.draws
  rw [if_neg hrole]
  by_cases hmember : s.inclusion.state = .included ∨ s.keys.hasKey = true
  · rw [if_pos hmember]
    exact Requested.refused _ s.draws
  rw [if_neg hmember]
  obtain ⟨hstate, hkey⟩ := not_or.mp hmember
  cases hown : s.inclusion.own with
  | some session => exact Requested.refused _ s.draws
  | none =>
    rw [if_neg (by decide)]
    cases hnew : s.newSession .broadcast .awaitingResponse now with
    | mk session drawn =>
      have hfirst : session = (s.newSession .broadcast .awaitingResponse now).1 :=
        (congrArg Prod.fst hnew).symm
      have hdrawn : drawn = s.withDraws drawn.draws := by
        rw [← show (s.newSession .broadcast .awaitingResponse now).2 = drawn from
          congrArg Prod.snd hnew]
        rfl
      simp only
      rw [hdrawn]
      rcases Packet.create_cases (s.withDraws drawn.draws).inclusion.nodeId .broadcast
          .includeRequest (Inclusion.offer session) (s.withDraws drawn.draws).draws with
        ⟨e, hcreate⟩ | ⟨id, after, hcreate⟩
      · rw [hcreate]
        exact Requested.refused _ drawn.draws
      · rw [hcreate]
        exact Requested.asked after session _ (Decidable.not_not.mp hrole) hstate
          (Bool.not_eq_true _ ▸ hkey) hown hfirst ⟨rfl, rfl, rfl⟩ rfl

/-! ## The order of the messages -/

/-- The topic of the message that one of this topic answers. -/
def askedTopic? : Topic → Option Topic
  | .includeResponse => some .includeRequest
  | .includeOpen => some .includeResponse
  | .includeConfirm => some .includeOpen
  | .includeSuccess => some .includeConfirm
  | _ => none

theorem Handled.topic {s' : Party} {reply : Packet}
    (h : Handled s p now (.ok (some reply)) s') : askedTopic? reply.topic = some p.topic := by
  cases h with
  | opened draws session peerKey peerNonce bootstrap reply htopic hrole haccepting hsession hroom
      hkey hoffer hnew hderive hreply => rw [hreply.topic, htopic, askedTopic?]
  | confirmed draws session bootstrap key reply htopic haddressed hsession hstep hbootstrap hopen
      hkey hreply => rw [hreply.topic, htopic, askedTopic?]
  | answered draws session hubKey hubNonce bootstrap reply htopic haddressed hown hpeer hstep
      hoffer hderive hreply => rw [hreply.topic, htopic, askedTopic?]
  | joined draws session bootstrap key keys result htopic haddressed hown hpeer hstep hbootstrap
      hopen hinstall hresult =>
    rcases hresult with ⟨e, he⟩ | ⟨reply', heq, hreply, _⟩
    · cases he
    · cases heq
      rw [hreply.topic, htopic, askedTopic?]

theorem Requested.topic {s' : Party} (h : Requested s now (.ok p) s') :
    p.topic = .includeRequest := by
  cases h with
  | asked draws session p hrole hstate hkey hown hnew hspeaks => exact hspeaks.topic

/-- Only a hub takes requests. -/
theorem enable_of_standard (s : Party) (hrole : s.inclusion.role = .standard) :
    ∃ e, s.enable = (.error e, s) := by
  have hrefused : s.inclusion.role ≠ .hub := by
    rw [hrole]
    decide
  unfold enable
  rw [if_pos hrefused]
  exact ⟨_, rfl⟩

end Party
end Meshwork
