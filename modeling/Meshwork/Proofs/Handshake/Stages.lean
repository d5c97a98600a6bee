import Meshwork.Proofs.Handshake.Shape

/-!
# How far a handshake can be

A session says what it waits for, whose it is and which key has been agreed on in it,
and nothing in its type ties these together. What a party does ties them: a hub opens a
session with a key and waits for an opening, then for a success; a device seeks with no
key until a hub has answered, and has one from then on. So a handler never misses the
session or the key that it looks for again after it has checked the step.
-/

namespace Meshwork
set_option autoImplicit false
open Association

/-- A session of a hub with a peer. -/
structure Session.Serves (session : Session) : Prop where
  step : session.step = .awaitingOpen ∨ session.step = .awaitingSuccess
  keyed : ∃ key, session.bootstrap = some key

/-- The handshake of a device. -/
inductive Session.Seeks (session : Session) : Prop
  | hub (hstep : session.step = .awaitingResponse) (hpeer : session.peer = .broadcast)
      (hkey : session.bootstrap = none)
  | meshKey (hstep : session.step = .awaitingConfirm)
      (hkey : ∃ key, session.bootstrap = some key)

namespace Inclusion

/-- Besides their places, the handshakes of a party are as far as its role lets them be,
and there is room for them. -/
structure Staged (c : Inclusion) : Prop extends Shaped c where
  member : c.role = .hub → c.state = .included
  room : c.sessions.length ≤ c.maxSessions
  serves : ∀ e ∈ c.sessions, e.2.Serves
  seeks : ∀ session, c.own = some session → session.Seeks

variable {c c' : Inclusion} {peer : NodeId} {session : Session}

theorem staged_create (config : Config) : (create config).Staged where
  toShaped := shaped_create config
  member hrole := congrArg initialState hrole
  room := Nat.zero_le _
  serves _ he := absurd he List.not_mem_nil
  seeks _ hown := nomatch hown

namespace Staged

/-- Handshakes may end, and a device may change its membership. -/
theorem narrow (h : c.Staged) (hsetup : c'.setup = c.setup)
    (hstate : c.role = .hub → c'.state = c.state) (hown : c'.own = none ∨ c'.own = c.own)
    (hsessions : c'.sessions.Sublist c.sessions) : c'.Staged where
  toShaped := h.toShaped.narrow (congrArg Setup.role hsetup) hown hsessions
  member hhub := by
    have hrole : c.role = .hub := (congrArg Setup.role hsetup).symm.trans hhub
    exact (hstate hrole).trans (h.member hrole)
  room := by
    have hmax : c'.maxSessions = c.maxSessions := congrArg Setup.maxSessions hsetup
    rw [hmax]
    exact Nat.le_trans hsessions.length_le h.room
  serves e he := h.serves e (hsessions.subset he)
  seeks session hsession := by
    rcases hown with hnone | hsame
    · rw [hnone] at hsession
      cases hsession
    · exact h.seeks session (hsame.symm.trans hsession)

theorem serves_of_session (h : c.Staged) (hsession : c.session? peer = some session) :
    session.Serves :=
  h.serves (peer, session) (mem_of_lookup hsession)

theorem putSession (h : c.Staged) (hrole : c.role = .hub) (hpeer : session.peer = peer)
    (hserves : session.Serves) (hroom : (eraseSession peer c.sessions).length < c.maxSessions) :
    (c.putSession peer session).Staged where
  toShaped := h.toShaped.putSession hrole hpeer
  member := h.member
  room := by
    unfold Inclusion.putSession
    rw [List.length_append, List.length_singleton]
    exact hroom
  serves e he := by
    rcases List.mem_append.mp he with hold | hnew
    · exact h.serves e (List.mem_filter.mp hold).1
    · rw [List.mem_singleton.mp hnew]
      exact hserves
  seeks := h.seeks

theorem setOwn (h : c.Staged) (hrole : c.role = .standard) (hseeks : session.Seeks) :
    { c with own := some session }.Staged where
  toShaped := h.toShaped.setOwn hrole session
  member := h.member
  room := h.room
  serves := h.serves
  seeks _ hother := Option.some.inj hother ▸ hseeks

theorem failPeer (h : c.Staged) (reason : InclusionError)
    (hsession : c.session? peer = some session) : (c.failPeer peer reason).Staged := by
  rw [failPeer_eq reason hsession]
  exact h.narrow rfl (fun _ => rfl) (Or.inr rfl) List.filter_sublist

theorem failOwn (h : c.Staged) (reason : InclusionError) (hown : c.own = some session) :
    (c.failOwn reason).Staged := by
  rw [failOwn_eq reason hown]
  refine h.narrow rfl (fun hrole => ?_) (Or.inl rfl) (List.Sublist.refl _)
  rw [h.hub hrole] at hown
  cases hown

theorem checkTimeouts (h : c.Staged) (now : UInt64) : (c.checkTimeouts now).Staged := by
  obtain ⟨_, hsessions, _⟩ := checkTimeouts_fields h.distinct now
  refine h.narrow (c.checkTimeouts_setup now) (fun hrole => ?_) (own_checked h.distinct now)
    (hsessions ▸ List.filter_sublist)
  -- a hub has no handshake of its own that could end
  obtain ⟨rest, _, _, hstate, _, hrest | ⟨session, hsession, _⟩⟩ := c.checkTimeouts_cases now
  · rw [hrest]
    exact hstate
  · rw [h.hub hrole] at hsession
    cases hsession

end Staged
end Inclusion

namespace Party

variable {s s' : Party} {p : Packet} {now : UInt64} {config : Config}

theorem Handled.staged {result : Except InclusionError (Option Packet)}
    (h : Handled s p now result s') (hs : s.inclusion.Staged) : s'.inclusion.Staged := by
  cases h with
  | refused e draws => exact hs
  | peerFailed e draws session hsession => exact hs.failPeer e hsession
  | ownFailed e draws session hown hpeer => exact hs.failOwn e hown
  | opened draws session peerKey peerNonce bootstrap reply htopic hrole haccepting hsession hroom
      hkey hoffer hnew =>
    have hrest : Inclusion.Staged
        { s.inclusion with included := s.inclusion.included.filter (· != p.source) } :=
      hs.narrow rfl (fun _ => rfl) (Or.inr rfl) (List.Sublist.refl _)
    have hplace : (Inclusion.eraseSession p.source s.inclusion.sessions).length <
        s.inclusion.maxSessions := by
      rw [Inclusion.eraseSession_of_none hsession]
      exact hroom
    rw [hnew]
    exact hrest.putSession hrole rfl ⟨Or.inl rfl, bootstrap, rfl⟩ hplace
  | confirmed draws session bootstrap key reply htopic haddressed hsession hstep hbootstrap =>
    -- the session that is put back takes the place of the one it was
    have hplace : (Inclusion.eraseSession p.source s.inclusion.sessions).length <
        s.inclusion.maxSessions :=
      Nat.lt_of_lt_of_le
        (Nat.lt_of_succ_le (Nat.le_of_eq (Inclusion.length_eraseSession hs.distinct hsession)))
        hs.room
    have hpeer : session.peer = p.source := hs.peer_of_session hsession
    exact hs.putSession (hs.role_of_session hsession) hpeer ⟨Or.inr rfl, bootstrap, hbootstrap⟩
      hplace
  | completed session key htopic haddressed hsession =>
    exact hs.narrow rfl (fun _ => rfl) (Or.inr rfl) List.filter_sublist
  | answered draws session hubKey hubNonce bootstrap reply htopic haddressed hown =>
    exact hs.setOwn (hs.role_of_own hown) (.meshKey rfl ⟨bootstrap, rfl⟩)
  | joined draws session bootstrap key keys result htopic haddressed hown =>
    refine hs.narrow rfl (fun hrole => ?_) (Or.inl rfl) (List.Sublist.refl _)
    rw [hs.hub hrole] at hown
    cases hown

theorem Requested.staged {result : Except MeshError Packet} (h : Requested s now result s')
    (hs : s.inclusion.Staged) : s'.inclusion.Staged := by
  cases h with
  | refused e draws => exact hs
  | asked draws session p hrole hstate hkey hown hnew =>
    rw [hnew]
    refine (hs.setOwn hrole (.hub rfl rfl rfl)).narrow rfl (fun hhub => ?_) (Or.inr rfl)
      (List.Sublist.refl _)
    rw [show s.inclusion.role = .hub from hhub] at hrole
    cases hrole

theorem Turn.staged (turn : Turn) (hs : s.inclusion.Staged) :
    (turn.perform s).inclusion.Staged := by
  cases turn with
  | call call =>
    cases call with
    | enable =>
      obtain ⟨accepting, henable⟩ := s.inclusion_enable
      rw [show (Turn.perform s (.call .enable)).inclusion = _ from henable]
      exact hs.narrow rfl (fun _ => rfl) (Or.inr rfl) (List.Sublist.refl _)
    | disable => exact hs.narrow rfl (fun _ => rfl) (Or.inr rfl) (List.Sublist.refl _)
    | handle p now => exact (s.handled p now).staged hs
    | expire now => exact hs.checkTimeouts now
    | drain => exact hs.narrow rfl (fun _ => rfl) (Or.inr rfl) (List.Sublist.refl _)
    | equip keys => exact hs
  | request now => exact (s.requested now).staged hs

theorem Reachable.staged (h : Reachable config s) : s.inclusion.Staged := by
  induction h with
  | start keys draws => exact Inclusion.staged_create config
  | turn turn _ ih => exact turn.staged ih
  | reset _ ih =>
    refine ih.narrow rfl (fun hrole => ?_) (Or.inl rfl) (List.Sublist.refl _)
    unfold Inclusion.reset
    rw [hrole]
    rfl
  | restore state _ ih =>
    unfold Inclusion.restore
    split
    · rename_i hrole
      refine ih.narrow rfl (fun hhub => ?_) (Or.inr rfl) (List.Sublist.refl _)
      rw [hhub] at hrole
      cases hrole
    · exact ih

/-! ## What a handler looks for again -/

/-- The answer to an opening when the session is looked for again: `lost` if there is
none, and `unkeyed` if it has no key. -/
def acceptOpenOr (lost unkeyed : InclusionError) (s : Party) (p : Packet) :
    Except InclusionError Packet × Party :=
  match s.inclusion.session? p.source with
  | none => (.error lost, s)
  | some session =>
    match session.bootstrap with
    | none => (.error unkeyed, s)
    | some _ => s.acceptOpen session p

/-- The answer to a response when the handshake is looked for again. -/
def acceptResponseOr (lost : InclusionError) (s : Party) (p : Packet) :
    Except InclusionError (MeshKey × Packet) × Party :=
  match s.inclusion.own with
  | none => (.error lost, s)
  | some session => s.acceptResponse session p

/-- The mesh key of a confirmation when the handshake and its key are looked for again. -/
def openConfirmOr (unkeyed : InclusionError) (s : Party) (p : Packet) :
    Except InclusionError MeshKey :=
  match s.inclusion.own with
  | none => .error unkeyed
  | some session =>
    match session.bootstrap with
    | none => .error unkeyed
    | some _ => s.openConfirm session p

variable {session : Session} {topic : Topic}

theorem session_of_expectStep {step : Step}
    (h : (s.inclusion.expectStep p.source step topic).1 = .ok session) :
    s.inclusion.session? p.source = some session := by
  rcases expectStep_cases s.inclusion p.source step topic with
    ⟨found, hfound, _, hexpect⟩ | ⟨e, _, _, hexpect⟩ | ⟨e, hexpect⟩
  · rw [hexpect] at h
    rw [hfound, Except.ok.inj h]
  · rw [hexpect] at h
    cases h
  · rw [hexpect] at h
    cases h

theorem own_of_ownSessionFor (h : s.inclusion.ownSessionFor p.source topic = .ok session) :
    s.inclusion.own = some session := by
  rcases ownSessionFor_cases s.inclusion p.source topic with
    ⟨found, hfound, _, hexpect⟩ | ⟨e, hexpect⟩
  · rw [hexpect] at h
    rw [hfound, Except.ok.inj h]
  · rw [hexpect] at h
    cases h

theorem acceptOpenOr_eq (hsession : s.inclusion.session? p.source = some session)
    (hserves : session.Serves) (lost unkeyed : InclusionError) :
    s.acceptOpenOr lost unkeyed p = s.acceptOpen session p := by
  obtain ⟨key, hkey⟩ := hserves.keyed
  unfold acceptOpenOr
  rw [hsession]
  simp only
  rw [hkey]

theorem openConfirmOr_eq (hown : s.inclusion.own = some session) (hseeks : session.Seeks)
    (hstep : session.step = .awaitingConfirm) (unkeyed : InclusionError) :
    s.openConfirmOr unkeyed p = s.openConfirm session p := by
  unfold openConfirmOr
  rw [hown]
  cases hseeks with
  | hub hresponse _ _ =>
    rw [hresponse] at hstep
    cases hstep
  | meshKey _ hkey =>
    obtain ⟨key, hkey⟩ := hkey
    simp only
    rw [hkey]

/-- In every state of a party the handshakes stand where its role, their steps and their
keys say, and no more of them than there may be. A handler that has found its session in
the step it expects finds it again with the key it needs: what it would answer without
makes no difference. -/
theorem session_shape (h : Reachable config s) :
    (config.role = .hub → s.inclusion.own = none ∧ s.inclusion.state = .included) ∧
    (config.role = .standard → s.inclusion.sessions = []) ∧
    s.inclusion.sessions.length ≤ config.maxInclusionSessions.toNat ∧
    (Association.keys s.inclusion.sessions).Nodup ∧
    (∀ e ∈ s.inclusion.sessions, e.2.peer = e.1 ∧
      (e.2.step = .awaitingOpen ∨ e.2.step = .awaitingSuccess) ∧
      ∃ key, e.2.bootstrap = some key) ∧
    (∀ session, s.inclusion.own = some session →
      (session.step = .awaitingResponse ∧ session.peer = .broadcast ∧
        session.bootstrap = none) ∨
      (session.step = .awaitingConfirm ∧ ∃ key, session.bootstrap = some key)) ∧
    ∀ (p : Packet) (session : Session) (lost unkeyed : InclusionError),
      ((s.inclusion.expectStep p.source .awaitingOpen p.topic).1 = .ok session →
        s.acceptOpenOr lost unkeyed p = s.acceptOpen session p) ∧
      (s.inclusion.ownSessionFor p.source p.topic = .ok session →
        s.acceptResponseOr lost p = s.acceptResponse session p ∧
        (session.step = .awaitingConfirm →
          s.openConfirmOr unkeyed p = s.openConfirm session p)) := by
  have hs : s.inclusion.Staged := h.staged
  have hmax : s.inclusion.maxSessions = config.maxInclusionSessions.toNat :=
    congrArg Inclusion.Setup.maxSessions h.setup
  refine ⟨fun hhub => ?_, fun hstandard => ?_, hmax ▸ hs.room, hs.distinct, fun e he => ?_,
    fun session hown => ?_, fun p session lost unkeyed => ⟨fun hexpect => ?_, fun hexpect => ?_⟩⟩
  · have hrole : s.inclusion.role = .hub := h.role.trans hhub
    exact ⟨hs.hub hrole, hs.member hrole⟩
  · exact hs.standard (h.role.trans hstandard)
  · exact ⟨hs.filed e he, (hs.serves e he).step, (hs.serves e he).keyed⟩
  · cases hs.seeks session hown with
    | hub hstep hpeer hkey => exact Or.inl ⟨hstep, hpeer, hkey⟩
    | meshKey hstep hkey => exact Or.inr ⟨hstep, hkey⟩
  · have hsession := session_of_expectStep hexpect
    exact acceptOpenOr_eq hsession (hs.serves_of_session hsession) lost unkeyed
  · have hown := own_of_ownSessionFor hexpect
    refine ⟨?_, fun hstep => openConfirmOr_eq hown (hs.seeks session hown) hstep unkeyed⟩
    unfold acceptResponseOr
    rw [hown]

/-- A hub in the middle of a handshake. -/
def servingHub : Party := History.sampleHistory.party 2

theorem servingHub_reachable : Reachable History.sampleHubConfig servingHub :=
  .turn (.call (History.sampleHistory.call 1))
    (.turn (.call (History.sampleHistory.call 0)) (.start _ _))

theorem session_shape_serving :
    Reachable History.sampleHubConfig servingHub ∧
      (servingHub.inclusion.session? History.samplePeer).isSome = true ∧
      ∀ e ∈ servingHub.inclusion.sessions, e.2.peer = e.1 ∧
        (e.2.step = .awaitingOpen ∨ e.2.step = .awaitingSuccess) ∧
        ∃ key, e.2.bootstrap = some key :=
  ⟨servingHub_reachable, by decide +kernel, (session_shape servingHub_reachable).2.2.2.2.1⟩

end Party
end Meshwork
