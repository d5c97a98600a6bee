import Meshwork.Proofs.Handshake.Advance
import Meshwork.Proofs.Handshake.Shape

/-!
# A handshake that is not disturbed

A hub that takes requests and a device that asks for inclusion come to an end with
it, whatever they have drawn and whatever else the hub is doing, as long as their
five messages arrive in order and no deadline of theirs is looked at too late.
-/

namespace Meshwork
set_option autoImplicit false
open Association

namespace CryptoProvider

/-- Nothing is refused, opening undoes sealing, and both ends of an agreement come
to one key. -/
structure IsComplete (provider : CryptoProvider) : Prop where
  seals : ∀ key aad plain draws, ∃ blob after,
    provider.sealText key aad plain draws = (.ok blob, after)
  opens : ∀ key aad plain blob, Seals provider key aad plain blob →
    provider.unsealText key aad blob = .ok plain
  agrees : ∀ draws draws' salt info, ∃ key,
    provider.derive (provider.keyPair draws).1 (provider.keyPair draws').1.publicKey salt info =
        .ok key ∧
      provider.derive (provider.keyPair draws').1 (provider.keyPair draws).1.publicKey salt info =
        .ok key

theorem transparent_isComplete : transparent.IsComplete where
  seals key aad plain draws := ⟨_, draws, rfl⟩
  opens key aad plain blob := by
    rintro ⟨before, after, hseal⟩
    have hblob : label key aad ++ plain = blob := Except.ok.inj (congrArg Prod.fst hseal)
    have hprefix : (label key aad).isPrefixOf blob = true :=
      List.isPrefixOf_iff_prefix.mpr ⟨plain, hblob⟩
    have hopen : transparent.unsealText key aad blob = .ok (blob.drop (label key aad).length) :=
      if_pos hprefix
    rw [hopen, ← hblob, List.drop_left]
  agrees _ _ _ _ := ⟨_, rfl, rfl⟩

end CryptoProvider

namespace Inclusion

variable {c : Inclusion} {peer : NodeId} {session : Session} {times : List UInt64} {now : UInt64}

/-! ## Looking at the deadlines -/

/-- What is left when the deadlines have been looked at at these times. -/
def expired (c : Inclusion) (times : List UInt64) : Inclusion := times.foldl checkTimeouts c

/-- Whether a session was overdue at one of these times. -/
def isLate (times : List UInt64) (session : Session) : Bool := times.any (isOverdue · session)

theorem isLate_cons (now : UInt64) (times : List UInt64) (session : Session) :
    isLate (now :: times) session = (isOverdue now session || isLate times session) :=
  List.any_cons

theorem isLate_eq_false (h : ∀ now ∈ times, now < session.deadline) :
    isLate times session = false := by
  rw [isLate, List.any_eq_false]
  intro now hnow
  rw [isOverdue, decide_eq_true_iff]
  exact Nat.not_le.mpr (h now hnow)

theorem expired_setup (c : Inclusion) (times : List UInt64) :
    (c.expired times).setup = c.setup := by
  induction times generalizing c with
  | nil => rfl
  | cons now times ih => exact (ih (c.checkTimeouts now)).trans (c.checkTimeouts_setup now)

theorem Shaped.expired (h : c.Shaped) (times : List UInt64) : (c.expired times).Shaped := by
  induction times generalizing c with
  | nil => exact h
  | cons now times ih => exact ih (h.checkTimeouts now)

/-- A device has nothing to lose before its own deadline. -/
theorem expired_of_fresh (hsessions : c.sessions = [])
    (hown : ∀ session, c.own = some session → ∀ now ∈ times, now < session.deadline) :
    c.expired times = c := by
  induction times with
  | nil => rfl
  | cons now times ih =>
    have hpeers : c.failOverduePeers now = c := by
      rw [failOverduePeers, overduePeers, hsessions]
      rfl
    have hcheck : c.checkTimeouts now = c := by
      change (c.failOverduePeers now).failOverdueOwn now = c
      rw [hpeers, failOverdueOwn]
      cases hsession : c.own with
      | none => rfl
      | some session =>
        have hdue : ¬isOverdue now session = true := by
          rw [isOverdue, decide_eq_true_iff]
          exact Nat.not_le.mpr (hown session hsession now List.mem_cons_self)
        exact if_neg hdue
    change (c.checkTimeouts now).expired times = c
    rw [hcheck]
    exact ih fun session hsession later hlater =>
      hown session hsession later (List.mem_cons_of_mem _ hlater)

theorem checkTimeouts_of_hub (h : c.Shaped) (hown : c.own = none) (now : UInt64) :
    c.checkTimeouts now =
      { c with
        sessions := c.sessions.filter fun e => !isOverdue now e.2
        events := c.events ++ (c.overduePeers now).map (.failed · .timeout) } := by
  change (c.failOverduePeers now).failOverdueOwn now = _
  rw [failOverduePeers_eq h.distinct, failOverdueOwn]
  simp only [hown]

/-- Those sessions of a hub have ended that were overdue at one of the times, each
with one result. -/
theorem expired_of_hub (h : c.Shaped) (hown : c.own = none) (times : List UInt64) :
    ∃ ended, c.expired times =
        { c with
          sessions := c.sessions.filter fun e => !isLate times e.2
          events := c.events ++ ended } ∧
      ended.Perm ((c.sessions.filter fun e => isLate times e.2).map (.failed ·.1 .timeout)) := by
  induction times generalizing c with
  | nil =>
    refine ⟨[], ?_, ?_⟩
    · have hall : c.sessions.filter (fun e => !isLate [] e.2) = c.sessions :=
        List.filter_eq_self.mpr fun _ _ => rfl
      rw [hall, List.append_nil]
      rfl
    · have hnone : c.sessions.filter (fun e => isLate [] e.2) = [] :=
        List.filter_eq_nil_iff.mpr fun _ _ => Bool.false_ne_true
      rw [hnone, List.map_nil]
  | cons now times ih =>
    have hcheck := checkTimeouts_of_hub h hown now
    obtain ⟨ended, hexpired, hended⟩ := ih (h.checkTimeouts now) (by rw [hcheck]; exact hown)
    refine ⟨(c.overduePeers now).map (.failed · .timeout) ++ ended, ?_, ?_⟩
    · change (c.checkTimeouts now).expired times = _
      rw [hexpired, hcheck]
      simp only [List.filter_filter, List.append_assoc, isLate_cons, Bool.not_or, Bool.and_comm]
    · rw [hcheck] at hended
      -- the sessions that end are those overdue now and those overdue later
      have hsplit := List.filter_append_perm (fun e : NodeId × Session => isOverdue now e.2)
        (c.sessions.filter fun e => isLate (now :: times) e.2)
      have hnow : (c.sessions.filter fun e => isLate (now :: times) e.2).filter
          (fun e => isOverdue now e.2) = c.sessions.filter fun e => isOverdue now e.2 := by
        rw [List.filter_filter]
        refine List.filter_congr fun e _ => ?_
        rw [isLate_cons]
        cases isOverdue now e.2 <;> rfl
      have hlater : (c.sessions.filter fun e => isLate (now :: times) e.2).filter
          (fun e => !isOverdue now e.2) =
          (c.sessions.filter fun e => !isOverdue now e.2).filter fun e => isLate times e.2 := by
        rw [List.filter_filter, List.filter_filter]
        refine List.filter_congr fun e _ => ?_
        rw [isLate_cons]
        cases isOverdue now e.2 <;> cases isLate times e.2 <;> rfl
      have hboth := hsplit.map fun e => InclusionEvent.failed e.1 .timeout
      rw [hnow, hlater, List.map_append] at hboth
      refine (List.Perm.append_left _ hended).trans ?_
      rw [overduePeers, List.map_map]
      exact hboth

theorem session?_checkTimeouts_of_none (hown : c.own = none) (hnone : c.session? peer = none)
    (now : UInt64) : (c.checkTimeouts now).session? peer = none := by
  refine Option.eq_none_iff_forall_ne_some.mpr fun session hsession => ?_
  have hbefore := (ends_checkTimeouts now hown).session peer session hsession
  rw [hnone] at hbefore
  cases hbefore

theorem checkTimeouts_putSession (h : c.Shaped) (hrole : c.role = .hub)
    (hnew : c.session? peer = none) (hpeer : session.peer = peer)
    (hdue : isOverdue now session = false) :
    (c.putSession peer session).checkTimeouts now =
      (c.checkTimeouts now).putSession peer session := by
  have hown : c.own = none := h.hub hrole
  have hafter := session?_checkTimeouts_of_none hown hnew now
  rw [checkTimeouts_of_hub h hown] at hafter ⊢
  rw [checkTimeouts_of_hub (h.putSession hrole hpeer) hown]
  have hkept : [(peer, session)].filter (fun e => !isOverdue now e.2) = [(peer, session)] :=
    List.filter_cons_of_pos (by rw [hdue]; rfl)
  have hspared : [(peer, session)].filter (fun e => isOverdue now e.2) = [] :=
    List.filter_cons_of_neg (by rw [hdue]; decide)
  unfold putSession overduePeers
  rw [eraseSession_of_none hafter]
  simp only [eraseSession_of_none hnew, List.filter_append, hkept, hspared, List.append_nil]

/-- A session that is not overdue stands beside whatever the deadlines end. -/
theorem expired_putSession (h : c.Shaped) (hrole : c.role = .hub)
    (hnew : c.session? peer = none) (hpeer : session.peer = peer)
    (hlate : isLate times session = false) :
    (c.putSession peer session).expired times = (c.expired times).putSession peer session := by
  induction times generalizing c with
  | nil => rfl
  | cons now times ih =>
    obtain ⟨hdue, hlater⟩ := Bool.or_eq_false_iff.mp hlate
    change ((c.putSession peer session).checkTimeouts now).expired times = _
    rw [checkTimeouts_putSession h hrole hnew hpeer hdue]
    refine ih (h.checkTimeouts now) ?_
      (session?_checkTimeouts_of_none (h.hub hrole) hnew now) hlater
    exact (congrArg Setup.role (c.checkTimeouts_setup now)).trans hrole

theorem putSession_putSession (c : Inclusion) (peer : NodeId) (first second : Session) :
    (c.putSession peer first).putSession peer second = c.putSession peer second := by
  have hgone : [(peer, first)].filter (·.1 != peer) = [] :=
    List.filter_cons_of_neg (by rw [bne_self_eq_false]; decide)
  unfold putSession eraseSession
  simp only [List.filter_append, List.filter_filter, Bool.and_self, hgone, List.append_nil]

theorem takeIn_putSession (h : c.session? peer = none) (session : Session) :
    Party.takeIn (c.putSession peer session) peer =
      { c with
        included := peer :: c.included.filter (· != peer)
        events := c.events ++ [.included peer] } := by
  have hgone : [(peer, session)].filter (·.1 != peer) = [] :=
    List.filter_cons_of_neg (by rw [bne_self_eq_false]; decide)
  have hkept : eraseSession peer (c.sessions ++ [(peer, session)]) = c.sessions := by
    rw [eraseSession, List.filter_append, hgone, List.append_nil]
    exact eraseSession_of_none h
  unfold Party.takeIn putSession
  rw [eraseSession_of_none h]
  simp only [hkept]
  rfl

theorem session?_expired_of_none (h : c.Shaped) (hown : c.own = none)
    (hnone : c.session? peer = none) (times : List UInt64) :
    (c.expired times).session? peer = none := by
  induction times generalizing c with
  | nil => exact hnone
  | cons now times ih =>
    refine ih (h.checkTimeouts now) ?_ (session?_checkTimeouts_of_none hown hnone now)
    rw [checkTimeouts_of_hub h hown]
    exact hown

theorem stateOf_of_included (hnone : c.session? peer = none) (hown : c.own = none)
    (hmem : peer ∈ c.included) : c.stateOf peer = .included := by
  unfold stateOf hasSession ownPeerIs
  rw [hnone, hown]
  exact if_pos hmem

end Inclusion

namespace Party

/-- What is left when the deadlines have been looked at at these times. -/
def expired (s : Party) (times : List UInt64) : Party :=
  { s with inclusion := s.inclusion.expired times }

/-- A hub that has a mesh key and takes a request of this peer. -/
structure Welcomes (hub : Party) (peer : NodeId) (key : MeshKey) : Prop where
  role : hub.inclusion.role = .hub
  accepting : hub.inclusion.accepting = true
  room : hub.inclusion.sessions.length < hub.inclusion.maxSessions
  new : hub.inclusion.session? peer = none
  key : hub.keys.key = some key

/-- A device that holds no key and has no handshake under way. -/
structure Waits (device : Party) : Prop where
  role : device.inclusion.role = .standard
  keyless : device.keys.key = none
  idle : device.inclusion.own = none

/-- None of these times has come to the deadline that the own session has. -/
def OwnInTime (s : Party) (times : List UInt64) : Prop :=
  ∀ session, s.inclusion.own = some session → ∀ now ∈ times, now < session.deadline

/-- None of these times has come to the deadline that the session with this peer has. -/
def PeerInTime (s : Party) (peer : NodeId) (times : List UInt64) : Prop :=
  ∀ session, s.inclusion.session? peer = some session → ∀ now ∈ times, now < session.deadline

theorem ownInTime_nil (s : Party) : s.OwnInTime [] :=
  fun _ _ _ hnow => absurd hnow List.not_mem_nil

theorem peerInTime_nil (s : Party) (peer : NodeId) : s.PeerInTime peer [] :=
  fun _ _ _ hnow => absurd hnow List.not_mem_nil

variable {provider : CryptoProvider} {hub device : Party} {key bootstrap : MeshKey}
  {rest : Inclusion} {session own : Session} {times : List UInt64}

theorem expired_of_waiting (halone : device.inclusion.sessions = [])
    (htimes : device.OwnInTime times) : device.expired times = device := by
  rw [expired, Inclusion.expired_of_fresh halone htimes]

/-! ## The key of the handshake -/

/-- Both ends put the same things in the same order. -/
theorem derives_alike (hprovider : provider.IsComplete) (hhub : hub.keys.provider = provider)
    (hdevice : device.keys.provider = provider)
    (hsecret : hub.inclusion.secret = device.inclusion.secret) {asked opened : Session}
    {peer peer' : NodeId} {step step' : Step} {now now' : UInt64}
    (hasked : asked = (device.newSession peer step now).1)
    (hopened : opened = (hub.newSession peer' step' now').1) (includee includer : NodeId) :
    ∃ bootstrap,
      hub.deriveBootstrap opened.keyPair asked.keyPair.publicKey asked.nonce opened.nonce includee
          includer = .ok bootstrap ∧
        device.deriveBootstrap asked.keyPair opened.keyPair.publicKey asked.nonce opened.nonce
          includee includer = .ok bootstrap := by
  obtain ⟨bootstrap, hfirst, hsecond⟩ := hprovider.agrees (device.draws.takeBlock 16).2
    (hub.draws.takeBlock 16).2
    (Inclusion.bootstrapSalt device.inclusion.secret asked.nonce opened.nonce)
    (Inclusion.bootstrapInfo includee includer)
  have haskedPair : asked.keyPair = (provider.keyPair (device.draws.takeBlock 16).2).1 := by
    rw [hasked, ← hdevice]
    rfl
  have hopenedPair : opened.keyPair = (provider.keyPair (hub.draws.takeBlock 16).2).1 := by
    rw [hopened, ← hhub]
    rfl
  refine ⟨bootstrap, ?_, ?_⟩
  · rw [deriveBootstrap, hhub, hsecret, haskedPair, hopenedPair]
    exact hsecond
  · rw [deriveBootstrap, hdevice, haskedPair, hopenedPair]
    exact hfirst

/-! ## From the opening to the end -/

/-- A hub and a device that have agreed on a key. The hub has a session for the
device beside whatever else it has, the device waits for its confirmation. -/
structure Agreed (hub device : Party) (rest : Inclusion) (session own : Session)
    (bootstrap : MeshKey) : Prop where
  shaped : rest.Shaped
  role : rest.role = .hub
  new : rest.session? device.inclusion.nodeId = none
  sessions : hub.inclusion = rest.putSession device.inclusion.nodeId session
  peer : session.peer = device.inclusion.nodeId
  opened : session.step = .awaitingOpen
  agreed : session.bootstrap = some bootstrap
  alone : device.inclusion.sessions = []
  keyless : device.keys.key = none
  asked : device.inclusion.own = some own
  answered : own.peer = hub.inclusion.nodeId
  waiting : own.step = .awaitingConfirm
  same : own.bootstrap = some bootstrap

/-- What the hub and the device come to: the device has the key of the hub and is
in, and the hub has taken it in and has otherwise only looked at its deadlines. -/
structure Joined (hub device : Party) (rest : Inclusion) (key : MeshKey) (hub' device' : Party) :
    Prop where
  installed : device'.keys =
    { device.keys with key := some key, installs := device.keys.installs + 1 }
  member : device'.inclusion =
    { device.inclusion with
      own := none
      state := .included
      events := device.inclusion.events ++ [.included hub.inclusion.nodeId] }
  kept : hub'.keys = hub.keys
  taken : hub'.inclusion =
    { rest with
      included := device.inclusion.nodeId ::
        rest.included.filter (· != device.inclusion.nodeId)
      events := rest.events ++ [.included device.inclusion.nodeId] }

/-- The session of a hub that has sent its key. -/
def confirmed (session : Session) (deadline : UInt64) : Session :=
  { session with step := .awaitingSuccess, deadline := deadline }

/-- The hub opens what the device has sealed and sends its key. -/
theorem Agreed.confirms (h : Agreed hub device rest session own bootstrap)
    (hprovider : provider.IsComplete) (hhub : hub.keys.provider = provider)
    (hkey : hub.keys.key = some key) {opening : Packet}
    (hspeaks : device.Speaks hub.inclusion.nodeId .includeOpen opening)
    (hsealed : Seals provider bootstrap opening.associatedData device.inclusion.nodeId.toBytes
      opening.payload) (now : UInt64) :
    ∃ confirmation draws,
      hub.handle opening now =
          (.ok (some confirmation),
            { hub with
              inclusion := rest.putSession device.inclusion.nodeId
                (confirmed session (now + hub.inclusion.timeout))
              draws := draws }) ∧
        hub.Speaks device.inclusion.nodeId .includeConfirm confirmation ∧
        Seals provider bootstrap confirmation.associatedData key.toBytes
          confirmation.payload := by
  have hsource : opening.source = device.inclusion.nodeId := hspeaks.source
  have hsession : hub.inclusion.session? opening.source = some session := by
    rw [hsource, h.sessions]
    exact Inclusion.session?_putSession_self rest device.inclusion.nodeId session
  have hopens : hub.keys.provider.unsealText bootstrap opening.associatedData opening.payload =
      .ok opening.source.toBytes := by
    rw [hhub, hsource]
    exact hprovider.opens _ _ _ _ hsealed
  obtain ⟨confirmation, draws, hconfirms, hconfirmSpeaks, hconfirmSealed⟩ :=
    handle_open now hspeaks.topic hspeaks.destination hsession h.opened h.agreed hopens hkey
      fun aad draws => by
        rw [hhub]
        exact hprovider.seals bootstrap aad key.toBytes draws
  have hput (next : Session) : hub.inclusion.putSession opening.source next =
      rest.putSession device.inclusion.nodeId next := by
    rw [hsource, h.sessions]
    exact Inclusion.putSession_putSession rest _ session next
  refine ⟨confirmation, draws, ?_, hsource ▸ hconfirmSpeaks, ?_⟩
  · rw [← hput]
    exact hconfirms
  · rw [hhub] at hconfirmSealed
    exact hconfirmSealed

/-- The device, which has lost nothing, opens the key, installs it and is in. -/
theorem Agreed.joins (h : Agreed hub device rest session own bootstrap)
    (hprovider : provider.IsComplete) (hdevice : device.keys.provider = provider)
    {confirmation : Packet}
    (hspeaks : hub.Speaks device.inclusion.nodeId .includeConfirm confirmation)
    (hsealed : Seals provider bootstrap confirmation.associatedData key.toBytes
      confirmation.payload) (now : UInt64) (htimes : device.OwnInTime times) :
    ∃ success draws,
      (device.expired times).handle confirmation now =
          (.ok (some success),
            { device with
              inclusion := join device.inclusion hub.inclusion.nodeId
              keys :=
                { device.keys with key := some key, installs := device.keys.installs + 1 }
              draws := draws }) ∧
        device.Speaks hub.inclusion.nodeId .includeSuccess success ∧
        Seals provider key success.associatedData device.inclusion.nodeId.toBytes
          success.payload := by
  have hsource : confirmation.source = hub.inclusion.nodeId := hspeaks.source
  have hopens : device.keys.provider.unsealText bootstrap confirmation.associatedData
      confirmation.payload = .ok key.toBytes := by
    rw [hdevice]
    exact hprovider.opens _ _ _ _ hsealed
  let keys : KeyRing := { device.keys with key := some key, installs := device.keys.installs + 1 }
  have hkeys : keys.provider = provider := hdevice
  obtain ⟨success, draws, hbuilt, hsuccessSpeaks, hsuccessSealed⟩ :=
    ({ device with keys := keys } : Party).buildSealed_of_seals confirmation.source
      (show Topic.includeSuccess.isCanonical = true by decide) key
      device.inclusion.nodeId.toBytes fun aad draws => by
        rw [hkeys]
        exact hprovider.seals key aad device.inclusion.nodeId.toBytes draws
  have hjoins := handle_confirm now hspeaks.topic hspeaks.destination h.asked
    (Or.inr (h.answered.trans hsource.symm)) h.waiting h.same hopens h.keyless
    (show keys = _ from rfl) hbuilt
  rw [hsource] at hjoins hsuccessSpeaks
  refine ⟨success, draws, ?_, ⟨hsuccessSpeaks.source, hsuccessSpeaks.destination,
    hsuccessSpeaks.topic⟩, hkeys ▸ hsuccessSealed⟩
  rw [expired_of_waiting h.alone htimes]
  exact hjoins

/-- The hub, which has kept the session that it has confirmed, takes the device
in. -/
theorem Agreed.takesIn (h : Agreed hub device rest session own bootstrap)
    (hprovider : provider.IsComplete) (hhub : hub.keys.provider = provider)
    (hkey : hub.keys.key = some key) {success : Packet}
    (hspeaks : device.Speaks hub.inclusion.nodeId .includeSuccess success)
    (hsealed : Seals provider key success.associatedData device.inclusion.nodeId.toBytes
      success.payload) {deadline : UInt64} {hub' : Party}
    (hconfirmed : hub'.inclusion =
      rest.putSession device.inclusion.nodeId (confirmed session deadline))
    (hkeys : hub'.keys = hub.keys) (now : UInt64)
    (htimes : hub'.PeerInTime device.inclusion.nodeId times) :
    (hub'.expired times).handle success now =
      (.ok none,
        { hub' with
          inclusion :=
            { rest.expired times with
              included := device.inclusion.nodeId ::
                (rest.expired times).included.filter (· != device.inclusion.nodeId)
              events :=
                (rest.expired times).events ++ [.included device.inclusion.nodeId] } }) := by
  have hsource : success.source = device.inclusion.nodeId := hspeaks.source
  have hexpired : (hub'.expired times).inclusion =
      (rest.expired times).putSession device.inclusion.nodeId (confirmed session deadline) := by
    have hlate : Inclusion.isLate times (confirmed session deadline) = false := by
      refine Inclusion.isLate_eq_false (htimes _ ?_)
      rw [hconfirmed]
      exact Inclusion.session?_putSession_self _ _ _
    change hub'.inclusion.expired times = _
    rw [hconfirmed]
    exact Inclusion.expired_putSession h.shaped h.role h.new h.peer hlate
  have hnodeId : hub.inclusion.nodeId = (hub'.expired times).inclusion.nodeId := by
    have hsetup : (hub'.expired times).inclusion.setup = hub.inclusion.setup := by
      rw [hexpired, h.sessions]
      exact Inclusion.expired_setup rest times
    exact (congrArg Inclusion.Setup.nodeId hsetup).symm
  have hwaiting : (hub'.expired times).inclusion.session? success.source =
      some (confirmed session deadline) := by
    rw [hsource, hexpired]
    exact Inclusion.session?_putSession_self _ _ _
  have hopens : (hub'.expired times).keys.provider.unsealText key success.associatedData
      success.payload = .ok success.source.toBytes := by
    change hub'.keys.provider.unsealText key success.associatedData success.payload = _
    rw [hkeys, hhub, hsource]
    exact hprovider.opens _ _ _ _ hsealed
  have hgone : (rest.expired times).session? device.inclusion.nodeId = none :=
    Inclusion.session?_expired_of_none h.shaped (h.shaped.hub h.role) h.new times
  rw [handle_success now hspeaks.topic (hspeaks.destination.trans hnodeId) hwaiting rfl
    (show hub'.keys.key = some key from hkeys ▸ hkey) hopens, hexpired, hsource,
    Inclusion.takeIn_putSession hgone]
  rfl

/-- The hub confirms, and then both are in, whenever each looks at its deadlines
before that of its session. -/
theorem Agreed.joined (h : Agreed hub device rest session own bootstrap)
    (hprovider : provider.IsComplete) (hhub : hub.keys.provider = provider)
    (hdevice : device.keys.provider = provider) (hkey : hub.keys.key = some key)
    {opening : Packet} (hspeaks : device.Speaks hub.inclusion.nodeId .includeOpen opening)
    (hsealed : Seals provider bootstrap opening.associatedData device.inclusion.nodeId.toBytes
      opening.payload) (confirming joining ending : UInt64) (deviceTimes hubTimes : List UInt64) :
    ∃ confirmation hub₂, hub.handle opening confirming = (.ok (some confirmation), hub₂) ∧
      (device.OwnInTime deviceTimes → hub₂.PeerInTime device.inclusion.nodeId hubTimes →
        ∃ success device₂ hub₃,
          (device.expired deviceTimes).handle confirmation joining =
              (.ok (some success), device₂) ∧
            (hub₂.expired hubTimes).handle success ending = (.ok none, hub₃) ∧
            Joined hub device (rest.expired hubTimes) key hub₃ device₂) := by
  obtain ⟨confirmation, hubDraws, hconfirms, hconfirmSpeaks, hconfirmSealed⟩ :=
    h.confirms hprovider hhub hkey hspeaks hsealed confirming
  let hub₂ : Party :=
    { hub with
      inclusion := rest.putSession device.inclusion.nodeId
        (confirmed session (confirming + hub.inclusion.timeout))
      draws := hubDraws }
  refine ⟨confirmation, hub₂, hconfirms, fun hdeviceTimes hhubTimes => ?_⟩
  obtain ⟨success, deviceDraws, hjoins, hsuccessSpeaks, hsuccessSealed⟩ :=
    h.joins hprovider hdevice hconfirmSpeaks hconfirmSealed joining hdeviceTimes
  have hends := h.takesIn hprovider hhub hkey hsuccessSpeaks hsuccessSealed
    (show hub₂.inclusion = _ from rfl) rfl ending hhubTimes
  exact ⟨success, _, _, hjoins, hends, rfl, rfl, rfl, rfl⟩

/-! ## From the request to the opening -/

/-- What the hub has beside the session of a peer from whom it has a new request. -/
def besides (hub : Party) (peer : NodeId) : Inclusion :=
  { hub.inclusion with included := hub.inclusion.included.filter (· != peer) }

theorem shaped_besides (h : hub.inclusion.Shaped) (peer : NodeId) : (hub.besides peer).Shaped :=
  h.narrow rfl (Or.inr rfl) (List.Sublist.refl _)

/-- The session of a device that has an answer to its request. -/
def answered (asked : Session) (hub : NodeId) (bootstrap : MeshKey) (deadline : UInt64) : Session :=
  { asked with
    peer := hub
    bootstrap := some bootstrap
    step := .awaitingConfirm
    deadline := deadline }

/-- The hub offers what it has drawn and keeps a session with the key. -/
theorem Welcomes.responds {request : Packet} (h : hub.Welcomes request.source key)
    (htopic : request.topic = .includeRequest) (hbroadcast : request.destination = .broadcast)
    {peerKey : Bytes.Block 32} {peerNonce : Bytes.Block 16}
    (hoffer : Inclusion.parseOffer request.payload = .ok (peerKey, peerNonce)) {now : UInt64}
    {opened : Session} (hopened : opened = (hub.newSession request.source .awaitingOpen now).1)
    (hderives : hub.deriveBootstrap opened.keyPair peerKey peerNonce opened.nonce request.source
      hub.inclusion.nodeId = .ok bootstrap) :
    ∃ response draws,
      hub.handle request now =
          (.ok (some response),
            { hub with
              inclusion := (hub.besides request.source).putSession request.source
                { opened with bootstrap := some bootstrap }
              draws := draws }) ∧
        hub.Speaks request.source .includeResponse response ∧
        response.payload = Inclusion.offer opened := by
  have haddressed : isAddressed hub.inclusion request = true := by
    rw [isAddressed, Packet.isBroadcast, hbroadcast, htopic, Bool.or_eq_true]
    exact Or.inr rfl
  have hkeyed : hub.keys.hasKey = true := by
    rw [KeyRing.hasKey, h.key]
    rfl
  exact handle_request now htopic haddressed h.role h.accepting h.new h.room hkeyed hoffer hopened
    hderives

/-- The device with a handshake of its own under way. -/
def underWay (device : Party) (own : Session) (draws : Draws) : Party :=
  { device with
    inclusion := { device.inclusion with own := some own, state := .inclusionPending }
    draws := draws }

/-- The device, which has lost nothing, comes to the same key and seals its own
node under it. -/
theorem opens_of_asked (hprovider : provider.IsComplete) (hdevice : device.keys.provider = provider)
    (halone : device.inclusion.sessions = []) {asked opened : Session} {asking : UInt64}
    (hasked : asked = (device.newSession .broadcast .awaitingResponse asking).1)
    (askDraws : Draws) {response : Packet}
    (hspeaks : hub.Speaks device.inclusion.nodeId .includeResponse response)
    (hoffer : response.payload = Inclusion.offer opened)
    (hderives : device.deriveBootstrap asked.keyPair opened.keyPair.publicKey asked.nonce
      opened.nonce device.inclusion.nodeId hub.inclusion.nodeId = .ok bootstrap) (now : UInt64)
    (htimes : (device.underWay asked askDraws).OwnInTime times) :
    ∃ first draws,
      ((device.underWay asked askDraws).expired times).handle response now =
          (.ok (some first),
            device.underWay (answered asked hub.inclusion.nodeId bootstrap
              (now + device.inclusion.timeout)) draws) ∧
        device.Speaks hub.inclusion.nodeId .includeOpen first ∧
        Seals provider bootstrap first.associatedData device.inclusion.nodeId.toBytes
          first.payload := by
  have hsource : response.source = hub.inclusion.nodeId := hspeaks.source
  have hkeys : (device.underWay asked askDraws).keys.provider = provider := hdevice
  have hfresh : (device.underWay asked askDraws).expired times = device.underWay asked askDraws :=
    expired_of_waiting halone htimes
  have hbroadcast : asked.peer.isBroadcast = true := by
    rw [hasked]
    rfl
  have hstep : asked.step = .awaitingResponse := by
    rw [hasked]
    rfl
  have hoffered : Inclusion.parseOffer response.payload =
      .ok (opened.keyPair.publicKey, opened.nonce) := by
    rw [hoffer, Inclusion.parseOffer_offer]
  obtain ⟨first, draws, hopens, hopenSpeaks, hsealed⟩ := handle_response now hspeaks.topic
    (show response.destination = (device.underWay asked askDraws).inclusion.nodeId from
      hspeaks.destination) rfl
    (Or.inl hbroadcast) hstep hoffered (hsource ▸ hderives) fun aad draws => by
      rw [hkeys]
      exact hprovider.seals bootstrap aad device.inclusion.nodeId.toBytes draws
  rw [hsource] at hopens hopenSpeaks
  rw [hkeys] at hsealed
  refine ⟨first, draws, ?_, ⟨hopenSpeaks.source, hopenSpeaks.destination, hopenSpeaks.topic⟩,
    hsealed⟩
  rw [hfresh]
  exact hopens

/-- A request of the device is answered, and the answer leads to an opening under a
key that both have agreed on. -/
theorem agreed_of_request (hprovider : provider.IsComplete) (hhub : hub.keys.provider = provider)
    (hdevice : device.keys.provider = provider) (hhubShaped : hub.inclusion.Shaped)
    (hdeviceShaped : device.inclusion.Shaped)
    (hwelcomes : hub.Welcomes device.inclusion.nodeId key)
    (hsecret : hub.inclusion.secret = device.inclusion.secret) (asking answering opening : UInt64)
    {request : Packet} (hrequest : (device.request asking).1 = .ok request)
    (deviceTimes hubTimes : List UInt64) :
    ∃ response hub₁, hub.handle request answering = (.ok (some response), hub₁) ∧
      ((device.request asking).2.OwnInTime deviceTimes →
        hub₁.PeerInTime device.inclusion.nodeId hubTimes →
        ∃ first draws session asked bootstrap,
          ((device.request asking).2.expired deviceTimes).handle response opening =
              (.ok (some first),
                device.underWay (answered asked hub.inclusion.nodeId bootstrap
                  (opening + device.inclusion.timeout)) draws) ∧
            (hub₁.expired hubTimes).inclusion =
              ((hub.besides device.inclusion.nodeId).expired hubTimes).putSession
                device.inclusion.nodeId session ∧
            hub₁.keys = hub.keys ∧
            session.peer = device.inclusion.nodeId ∧ session.step = .awaitingOpen ∧
            session.bootstrap = some bootstrap ∧
            device.Speaks hub.inclusion.nodeId .includeOpen first ∧
            Seals provider bootstrap first.associatedData device.inclusion.nodeId.toBytes
              first.payload) := by
  have h := device.requested asking
  rw [hrequest] at h
  generalize (device.request asking).2 = asker at h ⊢
  cases h with
  | asked askDraws asked _ hrole _ _ _ hasked hspeaks hpayload =>
    have hsource : request.source = device.inclusion.nodeId := hspeaks.source
    rw [← hsource] at hwelcomes
    let opened := (hub.newSession request.source .awaitingOpen answering).1
    obtain ⟨bootstrap, hhubDerives, hdeviceDerives⟩ := derives_alike hprovider hhub hdevice hsecret
      hasked (show opened = _ from rfl) device.inclusion.nodeId hub.inclusion.nodeId
    have hoffered : Inclusion.parseOffer request.payload =
        .ok (asked.keyPair.publicKey, asked.nonce) := by
      rw [hpayload, Inclusion.parseOffer_offer]
    obtain ⟨response, hubDraws, hresponse, hresponds, hoffer⟩ := hwelcomes.responds hspeaks.topic
      hspeaks.destination hoffered (show opened = _ from rfl) (hsource.symm ▸ hhubDerives)
    rw [hsource] at hresponds
    refine ⟨response, _, hresponse, fun hdeviceTimes hhubTimes => ?_⟩
    obtain ⟨first, draws, hopening, hopens, hsealed⟩ := opens_of_asked hprovider hdevice
      (hdeviceShaped.standard hrole) hasked askDraws hresponds hoffer hdeviceDerives opening
      hdeviceTimes
    refine ⟨first, draws, { opened with bootstrap := some bootstrap }, asked, bootstrap,
      hopening, ?_, rfl, hsource, rfl, rfl, hopens, hsealed⟩
    rw [← hsource] at hhubTimes ⊢
    have hlate : Inclusion.isLate hubTimes { opened with bootstrap := some bootstrap } = false :=
      Inclusion.isLate_eq_false (hhubTimes _ (Inclusion.session?_putSession_self _ _ _))
    exact Inclusion.expired_putSession (shaped_besides hhubShaped request.source)
      hwelcomes.role hwelcomes.new rfl hlate

/-! ## The whole handshake -/

/-- A hub that takes requests and a device outside the mesh: the device can ask,
and then each of the five messages is accepted and answered by the next, whenever
each side looks at its deadlines before the one that its session has. In the end the
device is in with the key of the hub, and the hub has taken it in. All else that has
changed at the hub is that other sessions have ended in one failure each, exactly
those that were overdue when the hub looked. -/
theorem handshake_completes (hprovider : provider.IsComplete)
    {hubConfig deviceConfig : Config} (hhubReachable : Reachable hubConfig hub)
    (hdeviceReachable : Reachable deviceConfig device) (hhub : hub.keys.provider = provider)
    (hdevice : device.keys.provider = provider)
    (hwelcomes : hub.Welcomes device.inclusion.nodeId key) (hwaits : device.Waits)
    (hsecret : hub.inclusion.secret = device.inclusion.secret)
    (asking answering opening confirming joining ending : UInt64)
    (awaitingResponse awaitingOpen awaitingConfirm awaitingSuccess : List UInt64) :
    (device.inclusion.state ≠ .included → ∃ request, (device.request asking).1 = .ok request) ∧
      ∀ request, (device.request asking).1 = .ok request →
        ∃ response hub₁, hub.handle request answering = (.ok (some response), hub₁) ∧
          ((device.request asking).2.OwnInTime awaitingResponse →
            hub₁.PeerInTime device.inclusion.nodeId awaitingOpen →
            ∃ first device₁ confirmation hub₂,
              ((device.request asking).2.expired awaitingResponse).handle response opening =
                (.ok (some first), device₁) ∧
              (hub₁.expired awaitingOpen).handle first confirming =
                (.ok (some confirmation), hub₂) ∧
              (device₁.OwnInTime awaitingConfirm →
                hub₂.PeerInTime device.inclusion.nodeId awaitingSuccess →
                ∃ success device₂ hub₃,
                  (device₁.expired awaitingConfirm).handle confirmation joining =
                    (.ok (some success), device₂) ∧
                  (hub₂.expired awaitingSuccess).handle success ending = (.ok none, hub₃) ∧
                  device₂.keys =
                    { device.keys with key := some key, installs := device.keys.installs + 1 } ∧
                  device₂.inclusion =
                    { device.inclusion with
                      own := none
                      state := .included
                      events := device.inclusion.events ++ [.included hub.inclusion.nodeId] } ∧
                  hub₃.keys = hub.keys ∧
                  hub₃.inclusion.session? device.inclusion.nodeId = none ∧
                  hub₃.inclusion.stateOf device.inclusion.nodeId = .included ∧
                  ∃ ended,
                    hub₃.inclusion =
                      { hub.inclusion with
                        sessions := hub.inclusion.sessions.filter fun e =>
                          !Inclusion.isLate (awaitingOpen ++ awaitingSuccess) e.2
                        included := device.inclusion.nodeId ::
                          hub.inclusion.included.filter (· != device.inclusion.nodeId)
                        events := hub.inclusion.events ++ ended ++
                          [.included device.inclusion.nodeId] } ∧
                    ended.Perm
                      ((hub.inclusion.sessions.filter fun e =>
                          Inclusion.isLate (awaitingOpen ++ awaitingSuccess) e.2).map
                        (.failed ·.1 .timeout)))) := by
  have hhubShaped : hub.inclusion.Shaped := hhubReachable.shaped
  have hdeviceShaped : device.inclusion.Shaped := hdeviceReachable.shaped
  refine ⟨fun hstate => request_of_idle asking hwaits.role hstate hwaits.keyless hwaits.idle, ?_⟩
  intro request hrequest
  obtain ⟨response, hub₁, hanswered, hopens⟩ :=
    agreed_of_request hprovider hhub hdevice hhubShaped hdeviceShaped hwelcomes hsecret asking
      answering opening hrequest awaitingResponse awaitingOpen
  refine ⟨response, hub₁, hanswered, fun hresponse hopen => ?_⟩
  obtain ⟨first, draws, session, asked, bootstrap, hopened, hsessions, hkeys, hpeer, hstep,
    hagreed, hspeaks, hsealed⟩ := hopens hresponse hopen
  have hbesides := shaped_besides hhubShaped device.inclusion.nodeId
  have hidle : (hub.besides device.inclusion.nodeId).own = none := hhubShaped.hub hwelcomes.role
  let rest := (hub.besides device.inclusion.nodeId).expired awaitingOpen
  have hsetup : (hub₁.expired awaitingOpen).inclusion.setup = hub.inclusion.setup := by
    rw [hsessions]
    exact Inclusion.expired_setup _ awaitingOpen
  have hnodeId : (hub₁.expired awaitingOpen).inclusion.nodeId = hub.inclusion.nodeId :=
    congrArg Inclusion.Setup.nodeId hsetup
  have hrole : rest.role = .hub :=
    (congrArg Inclusion.Setup.role (Inclusion.expired_setup _ awaitingOpen)).trans hwelcomes.role
  have hnew := Inclusion.session?_expired_of_none hbesides hidle hwelcomes.new
  let own := answered asked hub.inclusion.nodeId bootstrap (opening + device.inclusion.timeout)
  have hmet : Agreed (hub₁.expired awaitingOpen) (device.underWay own draws) rest session own
      bootstrap :=
    ⟨hbesides.expired awaitingOpen, hrole, hnew awaitingOpen, hsessions, hpeer, hstep, hagreed,
      hdeviceShaped.standard hwaits.role, hwaits.keyless, rfl, hnodeId.symm, rfl, rfl⟩
  obtain ⟨confirmation, hub₂, hconfirmed, hcompletes⟩ :=
    hmet.joined hprovider (show hub₁.keys.provider = provider from hkeys ▸ hhub) hdevice
      (show hub₁.keys.key = some key from hkeys ▸ hwelcomes.key)
      ⟨hspeaks.source, hspeaks.destination.trans hnodeId.symm, hspeaks.topic⟩ hsealed confirming
      joining ending awaitingConfirm awaitingSuccess
  refine ⟨first, device.underWay own draws, confirmation, hub₂, hopened, hconfirmed,
    fun hconfirm hsuccess => ?_⟩
  obtain ⟨success, device₂, hub₃, hjoins, hends, hjoined⟩ := hcompletes hconfirm hsuccess
  -- looking at the deadlines in two goes is looking at them once
  have hrest : rest.expired awaitingSuccess =
      (hub.besides device.inclusion.nodeId).expired (awaitingOpen ++ awaitingSuccess) :=
    List.foldl_append.symm
  have htaken := hjoined.taken
  rw [hrest] at htaken
  obtain ⟨ended, hexpired, hended⟩ :=
    Inclusion.expired_of_hub hbesides hidle (awaitingOpen ++ awaitingSuccess)
  have hgone : hub₃.inclusion.session? device.inclusion.nodeId = none := by
    rw [htaken]
    exact hnew (awaitingOpen ++ awaitingSuccess)
  rw [hexpired] at htaken
  refine ⟨success, device₂, hub₃, hjoins, hends, hjoined.installed, ?_, hjoined.kept.trans hkeys,
    hgone, ?_, ended, ?_, hended⟩
  · rw [hjoined.member, hnodeId]
    rfl
  · refine Inclusion.stateOf_of_included hgone ?_ ?_
    · rw [htaken]
      exact hidle
    · rw [htaken]
      exact List.mem_cons_self
  · rw [htaken]
    simp only [underWay, besides, List.filter_filter, Bool.and_self]

/-! ## Beside another handshake -/

def busyConfig : Config := .hub ⟨1⟩

def newcomerConfig : Config := .standard ⟨2⟩

def busyKey : MeshKey := ⟨Bytes.block 32 [7]⟩

/-- Draws are told apart by their numbers. -/
def numberedDraws : Draws := { source := fun _ number => [UInt8.ofNat number] }

/-- A hub that has answered another device at the start. -/
def busyTurns : List Turn :=
  [.call .enable, .call (.handle (.fresh ⟨3⟩ .broadcast .includeRequest
    (List.replicate Inclusion.offerLength 0) 0) 0)]

def busyHub : Party :=
  busyTurns.foldl Turn.perform
    (.start busyConfig { provider := .transparent, key := some busyKey } numberedDraws)

def newcomer : Party := .start newcomerConfig { provider := .transparent } numberedDraws

theorem busyHub_reachable : Reachable busyConfig busyHub := (Reachable.start _ _).turns busyTurns

theorem busyHub_welcomes : busyHub.Welcomes newcomer.inclusion.nodeId busyKey :=
  ⟨rfl, rfl, by decide +kernel, by decide +kernel, rfl⟩

theorem newcomer_waits : newcomer.Waits := ⟨rfl, rfl, rfl⟩

def newcomerAsks : Except MeshError Packet × Party := newcomer.request 50000

def busyAnswers : Except InclusionError (Option Packet) × Party :=
  busyHub.handle (newcomerAsks.1.toOption.getD default) 50000

theorem handshake_completes_newcomer :
    ∃ request, (newcomer.request 50000).1 = .ok request ∧
      ∃ response first confirmation success hub₁ device₁ hub₂ device₂ hub₃,
        busyHub.handle request 50000 = (.ok (some response), hub₁) ∧
        ((newcomer.request 50000).2.expired []).handle response 50000 =
          (.ok (some first), device₁) ∧
        (hub₁.expired [60000]).handle first 60000 = (.ok (some confirmation), hub₂) ∧
        (device₁.expired []).handle confirmation 60000 = (.ok (some success), device₂) ∧
        (hub₂.expired []).handle success 60000 = (.ok none, hub₃) ∧
        device₂.keys.key = some busyKey ∧ hub₃.inclusion.stateOf ⟨2⟩ = .included := by
  obtain ⟨hasks, hends⟩ := handshake_completes CryptoProvider.transparent_isComplete
    busyHub_reachable (Reachable.start _ _) rfl rfl busyHub_welcomes newcomer_waits rfl
    50000 50000 50000 60000 60000 60000 [] [60000] [] []
  obtain ⟨request, hrequest⟩ := hasks (by decide)
  obtain ⟨response, hub₁, hanswered, hopens⟩ := hends request hrequest
  have hopen : hub₁.PeerInTime ⟨2⟩ [60000] := by
    have hhub : busyAnswers.2 = hub₁ := by
      rw [busyAnswers, newcomerAsks, show newcomer.request 50000 = (.ok request, _) from
        Prod.ext hrequest rfl]
      exact congrArg Prod.snd hanswered
    have hdeadline : (busyAnswers.2.inclusion.session? ⟨2⟩).all (60000 < ·.deadline) = true := by
      decide +kernel
    intro session hsession now hnow
    rw [hhub, hsession] at hdeadline
    rw [List.mem_singleton.mp hnow]
    exact of_decide_eq_true hdeadline
  obtain ⟨first, device₁, confirmation, hub₂, hopened, hconfirmed, hcompletes⟩ :=
    hopens (ownInTime_nil _) hopen
  obtain ⟨success, device₂, hub₃, hjoined, hended, hkeys, _, _, _, hstate, _⟩ :=
    hcompletes (ownInTime_nil _) (peerInTime_nil _ _)
  exact ⟨request, hrequest, response, first, confirmation, success, hub₁, device₁, hub₂, device₂,
    hub₃, hanswered, hopened, hconfirmed, hjoined, hended, by rw [hkeys], hstate⟩

/-- The message that a party has answered with. -/
def said (result : Except InclusionError (Option Packet)) : Packet :=
  (result.toOption.bind id).getD default

def newcomerOpens : Except InclusionError (Option Packet) × Party :=
  newcomerAsks.2.handle (said busyAnswers.1) 50000

/-- The hub looks at its deadlines before it goes on. -/
def busyConfirms : Except InclusionError (Option Packet) × Party :=
  (busyAnswers.2.expired [60000]).handle (said newcomerOpens.1) 60000

def newcomerJoins : Except InclusionError (Option Packet) × Party :=
  newcomerOpens.2.handle (said busyConfirms.1) 60000

def busyTakesIn : Except InclusionError (Option Packet) × Party :=
  busyConfirms.2.handle (said newcomerJoins.1) 60000

/-- Every message comes before the deadline of the session that it is for, and the hub
looks at its deadlines before that of the newcomer. It finds that the other device is
overdue, whose session ends with a result of its own. -/
theorem other_session_ends :
    (Reachable busyConfig busyHub ∧ Reachable newcomerConfig newcomer ∧
        busyHub.Welcomes newcomer.inclusion.nodeId busyKey ∧ newcomer.Waits ∧
        busyHub.inclusion.secret = newcomer.inclusion.secret ∧
        newcomerAsks.2.inclusion.own.any (50000 < ·.deadline) = true ∧
        (busyAnswers.2.inclusion.session? ⟨2⟩).any (60000 < ·.deadline) = true ∧
        newcomerOpens.2.inclusion.own.any (60000 < ·.deadline) = true ∧
        (busyConfirms.2.inclusion.session? ⟨2⟩).any (60000 < ·.deadline) = true) ∧
      newcomerJoins.2.inclusion.events = [.included ⟨1⟩] ∧
      (busyHub.inclusion.session? ⟨3⟩).isSome = true ∧ busyHub.inclusion.events = [] ∧
      busyTakesIn.2.inclusion.session? ⟨3⟩ = none ∧
      busyTakesIn.2.inclusion.events = [.failed ⟨3⟩ .timeout, .included ⟨2⟩] := by
  refine ⟨⟨busyHub_reachable, Reachable.start _ _, busyHub_welcomes, newcomer_waits, rfl, ?_⟩, ?_⟩
  · decide +kernel
  · decide +kernel

end Party
end Meshwork
