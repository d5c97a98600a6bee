import Meshwork.Proofs.Handshake.Advance
import Meshwork.Proofs.Handshake.Shape

/-!
# What a refused message leaves

A message that is refused has changed nothing, or has ended the one handshake that
it can belong to. A device that has opened its confirmation stays in the mesh even
if it cannot say so.
-/

namespace Meshwork
set_option autoImplicit false

namespace Party

/-- Handshakes and keys are as they were; draws may have been made. -/
def Untouched (s s' : Party) : Prop := s'.inclusion = s.inclusion ∧ s'.keys = s.keys

/-- One handshake has ended with this error for its result, and nothing else has
changed. -/
inductive GaveUp (s s' : Party) (peer : NodeId) (e : InclusionError) : Prop where
  | session (session : Session)
      (hrole : s.inclusion.role = .hub)
      (hsession : s.inclusion.session? peer = some session)
      (hpeer : session.peer = peer)
      (hinclusion : s'.inclusion =
        { s.inclusion with
          sessions := s.inclusion.sessions.filter (·.1 != peer)
          events := s.inclusion.events ++ [.failed session.peer e] })
      (hone : s'.inclusion.sessions.length + 1 = s.inclusion.sessions.length)
      (hkeys : s'.keys = s.keys)
  | own (session : Session)
      (hrole : s.inclusion.role = .standard)
      (hown : s.inclusion.own = some session)
      (hinclusion : s'.inclusion =
        { s.inclusion with
          own := none
          state := .notIncluded
          events := s.inclusion.events ++ [.failed session.peer e] })
      (hkeys : s'.keys = s.keys)

/-- A device has installed the key of its confirmation, and could not build the
message that says so. -/
structure JoinedUnheard (s s' : Party) (p : Packet) (e : InclusionError) (session : Session)
    (bootstrap key : MeshKey) : Prop where
  topic : p.topic = .includeConfirm
  addressed : p.destination = s.inclusion.nodeId
  role : s.inclusion.role = .standard
  own : s.inclusion.own = some session
  peer : session.peer.isBroadcast = true ∨ session.peer = p.source
  step : session.step = .awaitingConfirm
  agreed : session.bootstrap = some bootstrap
  confirmation : s.keys.provider.unsealText bootstrap p.associatedData p.payload =
    .ok key.toBytes
  keyless : s.keys.key = none
  inclusion : s'.inclusion =
    { s.inclusion with
      own := none
      state := .included
      events := s.inclusion.events ++ [.included p.source] }
  keys : s'.keys = { s.keys with key := some key, installs := s.keys.installs + 1 }
  unsaid : (({ s with keys := s'.keys } : Party).buildSealed p.source .includeSuccess key
    s.inclusion.nodeId.toBytes).1 = .error e

variable {s s' : Party} {p : Packet} {now : UInt64} {peer : NodeId} {e : InclusionError}
variable {session : Session} {bootstrap key : MeshKey} {config : Config}

/-! ## The queue tells them apart -/

theorem Untouched.queued (h : Untouched s s') : s.inclusion.queued s'.inclusion = [] := by
  rw [h.1]
  exact List.drop_length

theorem GaveUp.queued (h : GaveUp s s' peer e) :
    ∃ other, s.inclusion.queued s'.inclusion = [.failed other e] := by
  cases h with
  | session session hrole hsession hpeer hinclusion =>
    rw [hinclusion]
    exact ⟨session.peer, Inclusion.queued_of_append rfl⟩
  | own session hrole hown hinclusion =>
    rw [hinclusion]
    exact ⟨session.peer, Inclusion.queued_of_append rfl⟩

theorem JoinedUnheard.queued (h : JoinedUnheard s s' p e session bootstrap key) :
    s.inclusion.queued s'.inclusion = [.included p.source] := by
  rw [h.inclusion]
  exact Inclusion.queued_of_append rfl

/-! ## Every refusal is one of them -/

theorem gaveUp_failPeer (hs : s.inclusion.Shaped)
    (hsession : s.inclusion.session? peer = some session) (draws : Draws) :
    GaveUp s ((s.withDraws draws).failPeer peer e) peer e := by
  have hinclusion : ((s.withDraws draws).failPeer peer e).inclusion = _ :=
    Inclusion.failPeer_eq e hsession
  refine GaveUp.session session (hs.role_of_session hsession) hsession
    (hs.peer_of_session hsession) ?_ ?_ rfl
  · rw [hinclusion, hs.peer_of_session hsession]
    rfl
  · rw [hinclusion]
    exact Inclusion.length_eraseSession hs.distinct hsession

theorem gaveUp_failOwn (hs : s.inclusion.Shaped) (hown : s.inclusion.own = some session)
    (draws : Draws) : GaveUp s ((s.withDraws draws).failOwn e) peer e := by
  refine GaveUp.own session (hs.role_of_own hown) hown ?_ rfl
  exact Inclusion.failOwn_eq e hown

theorem error_of_map {reply : Except InclusionError Packet} (h : reply.map some = .error e) :
    reply = .error e := by
  cases reply with
  | error e' => exact congrArg Except.error (Except.error.inj h)
  | ok reply => cases h

theorem refusal_cases (hs : s.inclusion.Shaped) (hrefused : (s.handle p now).1 = .error e) :
    Untouched s (s.handle p now).2 ∨ GaveUp s (s.handle p now).2 p.source e ∨
      ∃ session bootstrap key, JoinedUnheard s (s.handle p now).2 p e session bootstrap key := by
  have h := s.handled p now
  rw [hrefused] at h
  generalize hafter : (s.handle p now).2 = after at h ⊢
  cases h with
  | refused _ draws => exact Or.inl ⟨rfl, rfl⟩
  | peerFailed _ draws session hsession =>
    exact Or.inr (Or.inl (gaveUp_failPeer hs hsession draws))
  | ownFailed _ draws session hown hpeer =>
    exact Or.inr (Or.inl (gaveUp_failOwn hs hown draws))
  | joined draws session bootstrap key keys _ htopic haddressed hown hpeer hstep hbootstrap hopen
      hinstall hresult =>
    obtain ⟨hkeyless, hkeys⟩ := KeyRing.eq_of_install hinstall
    have haccepted := handle_confirm now htopic haddressed hown hpeer hstep hbootstrap hopen
      hkeyless hkeys rfl
    have hunsaid : (({ s with keys := keys } : Party).buildSealed p.source .includeSuccess key
        s.inclusion.nodeId.toBytes).1 = .error e := by
      rw [haccepted] at hrefused
      exact error_of_map hrefused
    exact Or.inr (Or.inr ⟨session, bootstrap, key, htopic, haddressed, hs.role_of_own hown, hown,
      hpeer, hstep, hbootstrap, hopen, hkeyless, rfl, hkeys, hunsaid⟩)

/-- Whatever has happened to a party before: if it refuses a packet, then either
handshakes and keys are as they were, or exactly one handshake has ended, the
session of the sender or the device's own, with the error as its result, or a
confirmation was accepted whose answer could not be built. It is always exactly
one of the three. -/
theorem refusal_trichotomy (hs : Reachable config s)
    (hrefused : (s.handle p now).1 = .error e) :
    let after := (s.handle p now).2
    let unheard := ∃ session bootstrap key, JoinedUnheard s after p e session bootstrap key
    Untouched s after ∧ ¬GaveUp s after p.source e ∧ ¬unheard ∨
      ¬Untouched s after ∧ GaveUp s after p.source e ∧ ¬unheard ∨
      ¬Untouched s after ∧ ¬GaveUp s after p.source e ∧ unheard := by
  intro after unheard
  -- what has been queued is nothing, one failure or one inclusion
  have hfirst : Untouched s after → ¬GaveUp s after p.source e := by
    intro huntouched hgaveUp
    obtain ⟨other, hqueued⟩ := hgaveUp.queued
    rw [huntouched.queued] at hqueued
    cases hqueued
  have hsecond : Untouched s after → ¬unheard := by
    rintro huntouched ⟨session, bootstrap, key, hjoined⟩
    have hqueued := hjoined.queued
    rw [huntouched.queued] at hqueued
    cases hqueued
  have hthird : GaveUp s after p.source e → ¬unheard := by
    rintro hgaveUp ⟨session, bootstrap, key, hjoined⟩
    obtain ⟨other, hqueued⟩ := hgaveUp.queued
    rw [hjoined.queued] at hqueued
    cases hqueued
  rcases refusal_cases hs.shaped hrefused with huntouched | hgaveUp | hunheard
  · exact Or.inl ⟨huntouched, hfirst huntouched, hsecond huntouched⟩
  · exact Or.inr (Or.inl ⟨fun h => hfirst h hgaveUp, hgaveUp, hthird hgaveUp⟩)
  · exact Or.inr (Or.inr ⟨fun h => hsecond h hunheard, fun h => hthird h hunheard, hunheard⟩)

/-! ## A device that cannot say that it is in -/

def mutedConfig : Config := .standard ⟨9⟩

/-- The offer of a hub, all zeros, and with it the key of the handshake. -/
def mutedOffer : Packet :=
  .fresh ⟨1⟩ ⟨9⟩ .includeResponse (List.replicate Inclusion.offerLength 0) 1

/-- What a device waits with for its confirmation, while its provider has ceased to
seal. -/
def mutedTurns : List Turn :=
  [.request 0, .call (.handle mutedOffer 1),
    .call (.equip { provider := CryptoProvider.transparent.withoutSeal })]

def mutedParty : Party :=
  mutedTurns.foldl Turn.perform
    (.start mutedConfig { provider := .transparent } { source := fun _ _ => [] })

def mutedConfirmation : Packet :=
  let header : Packet := .fresh ⟨1⟩ ⟨9⟩ .includeConfirm [] 2
  { header with
    payload := CryptoProvider.label ⟨Bytes.block 32 []⟩ header.associatedData ++
      MeshKey.toBytes ⟨Bytes.block 32 [7]⟩ }

theorem mutedParty_reachable : Reachable mutedConfig mutedParty :=
  (Reachable.start _ _).turns mutedTurns

theorem refusal_trichotomy_muted :
    (mutedParty.handle mutedConfirmation 2).1 = .error (.crypto .sealFailed) ∧
      ∃ session bootstrap key, JoinedUnheard mutedParty (mutedParty.handle mutedConfirmation 2).2
        mutedConfirmation (.crypto .sealFailed) session bootstrap key := by
  have hrefused : (mutedParty.handle mutedConfirmation 2).1 = .error (.crypto .sealFailed) := rfl
  have hqueued : mutedParty.inclusion.queued
      (mutedParty.handle mutedConfirmation 2).2.inclusion = [.included ⟨1⟩] := by
    decide +kernel
  refine ⟨hrefused, ?_⟩
  rcases refusal_trichotomy mutedParty_reachable hrefused with
    ⟨huntouched, _⟩ | ⟨_, hgaveUp, _⟩ | ⟨_, _, hunheard⟩
  · rw [huntouched.queued] at hqueued
    cases hqueued
  · obtain ⟨other, hother⟩ := hgaveUp.queued
    rw [hother] at hqueued
    cases hqueued
  · exact hunheard

end Party
end Meshwork
