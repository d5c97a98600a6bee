import Meshwork.Proofs.Association
import Meshwork.Proofs.Handshake.Steps

/-!
# What a step leaves alone

A party never changes what it was set up with. Ending sessions of a hub does not
touch a handshake of its own, nor the other way round.
-/

namespace Meshwork
set_option autoImplicit false
open Association

namespace Inclusion

/-- What a party is set up with. -/
structure Setup where
  nodeId : NodeId
  role : Role
  timeout : UInt64
  maxSessions : Nat
  secret : Option (Bytes.Block 32)
deriving DecidableEq

def setup (c : Inclusion) : Setup :=
  ⟨c.nodeId, c.role, c.timeout, c.maxSessions, c.secret⟩

variable {c : Inclusion} {peer other : NodeId} {reason : InclusionError}

theorem restore_standard {state : Membership} (h : c.role = .standard) :
    c.restore state = { c with state := state } :=
  if_pos h

theorem restore_setup (c : Inclusion) (state : Membership) : (c.restore state).setup = c.setup := by
  unfold restore
  split <;> rfl

theorem state_reset (h : c.role = .standard) : c.reset.state = .notIncluded :=
  if_pos h

/-! ## Sessions of a hub -/

theorem session?_putSession_self (c : Inclusion) (peer : NodeId) (session : Session) :
    (c.putSession peer session).session? peer = some session := by
  unfold putSession session?
  rw [List.lookup_append, eraseSession, lookup_filter_self]
  exact List.lookup_cons_self

theorem session?_putSession_ne (c : Inclusion) (session : Session) (h : other ≠ peer) :
    (c.putSession peer session).session? other = c.session? other := by
  unfold putSession session?
  rw [List.lookup_append, eraseSession, lookup_filter_ne h, List.lookup_cons,
    beq_false_of_ne h]
  exact Option.or_none

theorem session?_takeIn_ne (c : Inclusion) (h : other ≠ peer) :
    (Party.takeIn c peer).session? other = c.session? other :=
  lookup_filter_ne h c.sessions

theorem session?_takeIn_self (c : Inclusion) (peer : NodeId) :
    (Party.takeIn c peer).session? peer = none :=
  lookup_filter_self peer c.sessions

theorem failPeer_setup (c : Inclusion) (peer : NodeId) (reason : InclusionError) :
    (c.failPeer peer reason).setup = c.setup := by
  unfold failPeer
  split <;> rfl

theorem failPeer_own (c : Inclusion) (peer : NodeId) (reason : InclusionError) :
    (c.failPeer peer reason).own = c.own := by
  unfold failPeer
  split <;> rfl

theorem failPeer_state (c : Inclusion) (peer : NodeId) (reason : InclusionError) :
    (c.failPeer peer reason).state = c.state := by
  unfold failPeer
  split <;> rfl

theorem failPeer_accepting (c : Inclusion) (peer : NodeId) (reason : InclusionError) :
    (c.failPeer peer reason).accepting = c.accepting := by
  unfold failPeer
  split <;> rfl

theorem failPeer_included (c : Inclusion) (peer : NodeId) (reason : InclusionError) :
    (c.failPeer peer reason).included = c.included := by
  unfold failPeer
  split <;> rfl

theorem failPeer_events (c : Inclusion) (peer : NodeId) (reason : InclusionError) :
    (c.failPeer peer reason).events = c.events ∨
      (c.failPeer peer reason).events = c.events ++ [.failed peer reason] := by
  unfold failPeer
  split
  · exact Or.inr rfl
  · exact Or.inl rfl

theorem session?_failPeer_self (c : Inclusion) (peer : NodeId) (reason : InclusionError) :
    (c.failPeer peer reason).session? peer = none := by
  unfold failPeer
  by_cases h : c.hasSession peer = true
  · rw [if_pos h]
    exact lookup_filter_self peer c.sessions
  · rw [if_neg h]
    exact Option.not_isSome_iff_eq_none.mp h

theorem session?_failPeer_ne (c : Inclusion) (reason : InclusionError) (h : other ≠ peer) :
    (c.failPeer peer reason).session? other = c.session? other := by
  unfold failPeer
  split
  · exact lookup_filter_ne h c.sessions
  · rfl

theorem session?_of_failPeer {session : Session}
    (h : (c.failPeer peer reason).session? other = some session) :
    c.session? other = some session := by
  by_cases hne : other = peer
  · rw [hne, session?_failPeer_self] at h
    cases h
  · rwa [session?_failPeer_ne c reason hne] at h

/-! ## The deadlines -/

/-- What the end of any session keeps, the end of several keeps. -/
theorem failPeers_induct {P : Inclusion → Prop} {reason : InclusionError}
    (hstep : ∀ c peer, P c → P (c.failPeer peer reason)) (peers : List NodeId) (h : P c) :
    P (peers.foldl (fun c peer => c.failPeer peer reason) c) := by
  induction peers generalizing c with
  | nil => exact h
  | cons peer peers ih => exact ih (hstep c peer h)

/-- What is left when the sessions of a hub that are overdue have ended. -/
def failOverduePeers (c : Inclusion) (now : UInt64) : Inclusion :=
  (c.overduePeers now).foldl (fun c peer => c.failPeer peer .timeout) c

/-- Sessions of a hub end first, and then perhaps the handshake of the device. -/
theorem checkTimeouts_cases (c : Inclusion) (now : UInt64) :
    ∃ rest : Inclusion, rest.setup = c.setup ∧ rest.own = c.own ∧ rest.state = c.state ∧
      (∀ peer session, rest.session? peer = some session → c.session? peer = some session) ∧
      (c.checkTimeouts now = rest ∨
        ∃ session, c.own = some session ∧ session.deadline ≤ now ∧
          c.checkTimeouts now = rest.failOwn .timeout) := by
  have hown : (c.failOverduePeers now).own = c.own :=
    failPeers_induct (P := fun r => r.own = c.own)
      (fun r peer h => (failPeer_own r peer .timeout).trans h) _ rfl
  refine ⟨c.failOverduePeers now, ?_, hown, ?_, ?_, ?_⟩
  · exact failPeers_induct (P := fun r => r.setup = c.setup)
      (fun r peer h => (failPeer_setup r peer .timeout).trans h) _ rfl
  · exact failPeers_induct (P := fun r => r.state = c.state)
      (fun r peer h => (failPeer_state r peer .timeout).trans h) _ rfl
  · exact failPeers_induct
      (P := fun r => ∀ peer session, r.session? peer = some session →
        c.session? peer = some session)
      (fun r _ h peer session hr => h peer session (session?_of_failPeer hr)) _ fun _ _ h => h
  · rw [show c.checkTimeouts now = (c.failOverduePeers now).failOverdueOwn now from rfl]
    unfold failOverdueOwn
    rw [hown]
    cases c.own with
    | none => exact Or.inl rfl
    | some session =>
      simp only
      by_cases hdue : isOverdue now session = true
      · rw [if_pos hdue]
        exact Or.inr ⟨session, rfl, of_decide_eq_true hdue, rfl⟩
      · rw [if_neg hdue]
        exact Or.inl rfl

/-- The queue has grown by other results than a peer taken in. -/
def TakesNobody (c r : Inclusion) : Prop :=
  ∃ more, r.events = c.events ++ more ∧ ∀ peer, .included peer ∉ more

theorem TakesNobody.refl (c : Inclusion) : TakesNobody c c :=
  ⟨[], (List.append_nil _).symm, fun _ => List.not_mem_nil⟩

theorem TakesNobody.failed {r r' : Inclusion} {reason : InclusionError} (h : TakesNobody c r)
    (hevents : r'.events = r.events ++ [.failed peer reason]) : TakesNobody c r' := by
  obtain ⟨more, hmore, hnone⟩ := h
  refine ⟨more ++ [.failed peer reason], ?_, ?_⟩
  · rw [hevents, hmore, List.append_assoc]
  · intro other hother
    rcases List.mem_append.mp hother with h | h
    · exact hnone other h
    · cases List.mem_singleton.mp h

theorem takesNobody_failOverduePeers (c : Inclusion) (now : UInt64) :
    TakesNobody c (c.failOverduePeers now) := by
  apply failPeers_induct (P := TakesNobody c) _ _ (TakesNobody.refl c)
  intro r peer hr
  unfold failPeer
  split
  · exact hr.failed rfl
  · exact hr

theorem takesNobody_checkTimeouts (c : Inclusion) (now : UInt64) :
    TakesNobody c (c.checkTimeouts now) := by
  have hrest := c.takesNobody_failOverduePeers now
  change TakesNobody c ((c.failOverduePeers now).failOverdueOwn now)
  unfold failOverdueOwn
  cases hown : (c.failOverduePeers now).own with
  | none => exact hrest
  | some session =>
    simp only
    split
    · unfold failOwn
      rw [hown]
      exact hrest.failed rfl
    · exact hrest

/-! ## Ending the handshake of a device -/

theorem failOwn_eq {session : Session} (reason : InclusionError) (h : c.own = some session) :
    c.failOwn reason =
      { c with own := none, state := .notIncluded }.queue (.failed session.peer reason) := by
  unfold failOwn
  rw [h]

theorem session?_failOwn (c : Inclusion) (reason : InclusionError) (peer : NodeId) :
    (c.failOwn reason).session? peer = c.session? peer := by
  unfold failOwn
  split <;> rfl

theorem failOwn_setup (c : Inclusion) (reason : InclusionError) :
    (c.failOwn reason).setup = c.setup := by
  unfold failOwn
  split <;> rfl

theorem failOwn_accepting (c : Inclusion) (reason : InclusionError) :
    (c.failOwn reason).accepting = c.accepting := by
  unfold failOwn
  split <;> rfl

theorem checkTimeouts_setup (c : Inclusion) (now : UInt64) :
    (c.checkTimeouts now).setup = c.setup := by
  obtain ⟨rest, hsetup, _, _, _, hcheck | ⟨_, _, _, hcheck⟩⟩ := c.checkTimeouts_cases now
  · rw [hcheck, hsetup]
  · rw [hcheck, failOwn_setup, hsetup]

end Inclusion

namespace Party

variable {s s' : Party} {p : Packet} {now : UInt64}

theorem Handled.setup {result : Except InclusionError (Option Packet)}
    (h : Handled s p now result s') : s'.inclusion.setup = s.inclusion.setup := by
  cases h with
  | peerFailed e draws session hsession => exact s.inclusion.failPeer_setup p.source e
  | ownFailed e draws session hown hpeer => exact s.inclusion.failOwn_setup e
  | _ => rfl

/-- A key that is installed stays. -/
theorem Handled.keys {result : Except InclusionError (Option Packet)}
    (h : Handled s p now result s') (hkey : s.keys.hasKey = true) : s'.keys = s.keys := by
  cases h with
  | joined draws session bootstrap key keys result htopic haddressed hown hpeer hstep hbootstrap
      hopen hinstall =>
    rw [KeyRing.hasKey, (KeyRing.eq_of_install hinstall).1] at hkey
    cases hkey
  | _ => rfl

/-- Only a party that asks for a key itself is given one. -/
theorem Handled.keys_of_own_none {result : Except InclusionError (Option Packet)}
    (h : Handled s p now result s') (hnone : s.inclusion.own = none) : s'.keys = s.keys := by
  cases h with
  | joined draws session bootstrap key keys result htopic haddressed hown =>
    rw [hnone] at hown
    cases hown
  | _ => rfl

/-- Messages do not decide whether a hub takes requests. -/
theorem Handled.accepting {result : Except InclusionError (Option Packet)}
    (h : Handled s p now result s') : s'.inclusion.accepting = s.inclusion.accepting := by
  cases h with
  | peerFailed e draws session hsession => exact s.inclusion.failPeer_accepting p.source e
  | ownFailed e draws session hown hpeer => exact s.inclusion.failOwn_accepting e
  | _ => rfl

theorem Handled.provider {result : Except InclusionError (Option Packet)}
    (h : Handled s p now result s') : s'.keys.provider = s.keys.provider := by
  cases h with
  | joined draws session bootstrap key keys result htopic haddressed hown hpeer hstep hbootstrap
      hopen hinstall =>
    rw [(KeyRing.eq_of_install hinstall).2]
  | _ => rfl

/-- No message starts a handshake of the party that it reaches. -/
theorem Handled.own_none {result : Except InclusionError (Option Packet)}
    (h : Handled s p now result s') (hnone : s.inclusion.own = none) :
    s'.inclusion.own = none := by
  cases h with
  | peerFailed e draws session hsession =>
    exact (s.inclusion.failPeer_own p.source e).trans hnone
  | ownFailed e draws session hown hpeer =>
    rw [hnone] at hown
    cases hown
  | answered draws session hubKey hubNonce bootstrap reply htopic haddressed hown =>
    rw [hnone] at hown
    cases hown
  | joined => rfl
  | _ => exact hnone

theorem Requested.own_none {result : Except MeshError Packet} (h : Requested s now result s')
    (hnone : s.inclusion.own = none) (hrole : s.inclusion.role ≠ .standard) :
    s'.inclusion.own = none := by
  cases h with
  | refused e draws => exact hnone
  | asked draws session p hstandard => exact absurd hstandard hrole

theorem Requested.keys {result : Except MeshError Packet} (h : Requested s now result s') :
    s'.keys = s.keys := by
  cases h with
  | _ => rfl

theorem Requested.setup {result : Except MeshError Packet} (h : Requested s now result s') :
    s'.inclusion.setup = s.inclusion.setup := by
  cases h with
  | _ => rfl

/-- Taking requests changes nothing else about handshakes. -/
theorem inclusion_enable (s : Party) :
    ∃ accepting, s.enable.2.inclusion = { s.inclusion with accepting := accepting } := by
  unfold enable
  split
  · exact ⟨s.inclusion.accepting, rfl⟩
  · simp only
    split
    · exact ⟨true, rfl⟩
    · split
      · exact ⟨s.inclusion.accepting, rfl⟩
      · exact ⟨true, rfl⟩

end Party
end Meshwork
