import Meshwork.Proofs.Handshake.Changes

/-!
# The history of a hub

A hub may be asked anything in any order, and hears whatever packets anybody cares
to make up. Still it confirms only openings that its own session with the sender
was waiting for, nothing else that it says tells anything of the mesh key, and it
takes a peer in only when the three messages of the peer came in order.
-/

namespace Meshwork
set_option autoImplicit false

namespace Party

/-- What a hub can be asked. Between two calls its keys may be exchanged. -/
inductive Call where
  | enable
  | disable
  | handle (p : Packet) (now : UInt64)
  | expire (now : UInt64)
  | drain
  | equip (keys : KeyRing)

namespace Call

def perform (s : Party) : Call → Party
  | enable => s.enable.2
  | disable => { s with inclusion := s.inclusion.disable }
  | handle p now => (s.handle p now).2
  | expire now => { s with inclusion := s.inclusion.checkTimeouts now }
  | drain => { s with inclusion := s.inclusion.drain.2 }
  | equip keys => { s with keys := keys }

/-- What comes of a packet; other calls are not answered. -/
def outcome (s : Party) : Call → Except InclusionError (Option Packet)
  | handle p now => (s.handle p now).1
  | _ => .ok none

end Call

/-! ## The mesh key -/

variable {s : Party} {p reply : Packet} {now : UInt64}

def withKey (s : Party) (key : MeshKey) : Party :=
  { s with keys := { s.keys with key := some key } }

theorem inclusion_withKey (s : Party) (key : MeshKey) : (s.withKey key).inclusion = s.inclusion :=
  rfl

theorem build_withKey (s : Party) (key : MeshKey) (peer : NodeId) (topic : Topic)
    (payload : Bytes → Draws → Except CryptoError Bytes × Draws) :
    (s.withKey key).build peer topic payload =
      ((s.build peer topic payload).1, (s.build peer topic payload).2.withKey key) := by
  unfold build withKey withDraws
  rcases Packet.create s.inclusion.nodeId peer topic [] s.draws with ⟨created, draws⟩
  cases created with
  | error e => rfl
  | ok p =>
    simp only
    rcases payload p.associatedData draws with ⟨result, draws⟩
    cases result with
    | error e => rfl
    | ok bs => rfl

theorem newSession_withKey (s : Party) (key : MeshKey) (peer : NodeId) (step : Step)
    (now : UInt64) :
    (s.withKey key).newSession peer step now =
      ((s.newSession peer step now).1, (s.newSession peer step now).2.withKey key) :=
  rfl

theorem deriveBootstrap_withKey (s : Party) (key : MeshKey) :
    (s.withKey key).deriveBootstrap = s.deriveBootstrap :=
  rfl

theorem acceptRequest_withKey (s : Party) (key : MeshKey) (peer : NodeId)
    (peerKey : Bytes.Block 32) (peerNonce : Bytes.Block 16) (now : UInt64) :
    ((s.withKey key).acceptRequest peer peerKey peerNonce now).1 =
      (s.acceptRequest peer peerKey peerNonce now).1 := by
  unfold acceptRequest
  rw [newSession_withKey]
  rcases s.newSession peer .awaitingOpen now with ⟨session, drawn⟩
  simp only [build_withKey, inclusion_withKey]
  rw [deriveBootstrap_withKey]
  cases drawn.deriveBootstrap session.keyPair peerKey peerNonce session.nonce peer
    drawn.inclusion.nodeId with
  | error e => rfl
  | ok bootstrap =>
    simp only
    generalize drawn.build peer .includeResponse _ = built
    rcases built with ⟨result, built⟩
    cases result with
    | error e => rfl
    | ok reply => rfl

/-- Whether a request is answered depends on there being a mesh key. What the
answer is does not depend on which. -/
theorem onRequest_withKey (key : MeshKey) (hkey : s.keys.hasKey = true) :
    ((s.withKey key).onRequest p now).1 = (s.onRequest p now).1 := by
  have hboth : (s.withKey key).keys.hasKey = true := rfl
  unfold onRequest
  rw [hboth, hkey, inclusion_withKey]
  split
  · rfl
  · split
    · rfl
    · split
      · rfl
      · split
        · rfl
        · cases Inclusion.parseOffer p.payload with
          | error e => rfl
          | ok offer => exact s.acceptRequest_withKey key p.source offer.1 offer.2 now

/-- No answer of a hub but a confirmation depends on which mesh key it holds. -/
theorem handle_withKey (hown : s.inclusion.own = none)
    (hreply : (s.handle p now).1 = .ok (some reply)) (htopic : reply.topic ≠ .includeConfirm)
    (key : MeshKey) : ((s.withKey key).handle p now).1 = .ok (some reply) := by
  -- a hub has no handshake of its own, so what is left is the answer to a request
  have hrequest : p.topic = .includeRequest ∧ s.keys.hasKey = true := by
    have hhandled := s.handled p now
    rw [hreply] at hhandled
    generalize (s.handle p now).2 = after at hhandled
    cases hhandled with
    | opened draws session peerKey peerNonce bootstrap _ hasked hrole haccepting hsession hroom
        hkey => exact ⟨hasked, hkey⟩
    | confirmed draws session bootstrap key' _ _ haddressed hsession hstep hbootstrap hopen hkey
        hspeaks => exact absurd hspeaks.topic htopic
    | answered draws session hubKey hubNonce bootstrap _ _ haddressed hsome =>
      rw [hown] at hsome
      cases hsome
    | joined draws session bootstrap key' keys _ _ haddressed hsome =>
      rw [hown] at hsome
      cases hsome
  obtain ⟨hasked, hkey⟩ := hrequest
  have hanswer : ∀ result : Except InclusionError Packet × Party,
      (replied result).1 = result.1.map some := by
    rintro ⟨result, after⟩
    cases result with
    | error e => rfl
    | ok reply => rfl
  unfold handle at hreply ⊢
  rw [inclusion_withKey]
  split
  · rename_i haddressed
    rw [if_pos haddressed] at hreply
    cases hreply
  · rename_i haddressed
    rw [if_neg haddressed, hasked] at hreply
    rw [hasked]
    simp only [hanswer] at hreply ⊢
    rw [onRequest_withKey key hkey]
    exact hreply

end Party

structure History where
  start : Party
  call : Nat → Party.Call

namespace History

/-- The hub before the call with this number. -/
def party (h : History) : Nat → Party
  | 0 => h.start
  | i + 1 => (h.call i).perform (h.party i)

def session? (h : History) (i : Nat) (peer : NodeId) : Option Session :=
  (h.party i).inclusion.session? peer

def outcome (h : History) (i : Nat) : Except InclusionError (Option Packet) :=
  (h.call i).outcome (h.party i)

/-- The results that are in the queue after a call and were not before. -/
def queued (h : History) (i : Nat) : List InclusionEvent :=
  (h.party i).inclusion.queued (h.party (i + 1)).inclusion

/-- A request of a peer is accepted. -/
structure Opens (h : History) (i : Nat) (peer : NodeId) (new : Session) : Prop where
  heard : ∃ p now, h.call i = .handle p now ∧ p.source = peer ∧
    (h.party i).Opens p (h.outcome i) new
  has : h.session? (i + 1) peer = some new

/-- An opening of a peer is confirmed. -/
structure Confirms (h : History) (i : Nat) (peer : NodeId) (old new : Session) (key : MeshKey) :
    Prop where
  heard : ∃ p now, h.call i = .handle p now ∧ p.source = peer ∧
    (h.party i).Confirms p (h.outcome i) old new key
  has : h.session? (i + 1) peer = some new

/-- A success of a peer is opened. -/
structure Completes (h : History) (i : Nat) (peer : NodeId) (old : Session) (meshKey : MeshKey) :
    Prop where
  heard : ∃ p now, h.call i = .handle p now ∧ p.source = peer ∧
    (h.party i).Completes p old meshKey

/-- A hub with its configuration, and whatever keys and draws. -/
structure Starts (h : History) (config : Config) : Prop where
  role : config.role = .hub
  inclusion : h.start.inclusion = .create config

variable {h : History} {config : Config} {i j c : Nat} {peer : NodeId} {session : Session}
  {reply : Packet}

/-! ## One call -/

theorem party_succ (h : History) (i : Nat) : h.party (i + 1) = (h.call i).perform (h.party i) :=
  rfl

/-- A hub never has a handshake of its own. -/
theorem idle (hstart : h.Starts config) (i : Nat) : (h.party i).inclusion.own = none := by
  induction i with
  | zero => exact congrArg Inclusion.own hstart.inclusion
  | succ i ih =>
    rw [party_succ]
    cases h.call i with
    | enable =>
      obtain ⟨accepting, henable⟩ := (h.party i).inclusion_enable
      exact (congrArg Inclusion.own henable).trans ih
    | disable => exact ih
    | handle p now => exact ((h.party i).handled p now).own_none ih
    | expire now =>
      obtain ⟨rest, _, hown, _, _, hcheck | ⟨session, hsome, _⟩⟩ :=
        (h.party i).inclusion.checkTimeouts_cases now
      · exact (congrArg Inclusion.own hcheck).trans (hown.trans ih)
      · rw [ih] at hsome
        cases hsome
    | drain => exact ih
    | equip keys => exact ih

/-- A call has a packet handled, or is not answered and at most ends sessions. -/
theorem step_cases (hstart : h.Starts config) (i : Nat) :
    (∃ p now, h.call i = .handle p now ∧
        Party.Handled (h.party i) p now (h.outcome i) (h.party (i + 1))) ∨
      (h.outcome i = .ok none ∧ (h.party i).inclusion.Ends (h.party (i + 1)).inclusion) := by
  have hidle := idle hstart i
  rw [outcome, party_succ]
  cases h.call i with
  | enable =>
    obtain ⟨accepting, henable⟩ := (h.party i).inclusion_enable
    refine Or.inr ⟨rfl, ?_⟩
    change (h.party i).inclusion.Ends (h.party i).enable.2.inclusion
    rw [henable]
    exact .of_events rfl rfl
  | disable => exact Or.inr ⟨rfl, .of_events rfl rfl⟩
  | handle p now => exact Or.inl ⟨p, now, rfl, (h.party i).handled p now⟩
  | expire now => exact Or.inr ⟨rfl, Inclusion.ends_checkTimeouts now hidle⟩
  | drain => exact Or.inr ⟨rfl, (h.party i).inclusion.ends_drain⟩
  | equip keys => exact Or.inr ⟨rfl, .of_events rfl rfl⟩

theorem session_change (hstart : h.Starts config) (hnew : h.session? (i + 1) peer = some session)
    (hold : h.session? i peer ≠ some session) :
    h.Opens i peer session ∨ ∃ old key, h.Confirms i peer old session key := by
  rcases step_cases hstart i with ⟨p, now, hcall, hhandled⟩ | ⟨_, hends⟩
  · obtain ⟨hpeer, hopens | ⟨old, key, hconfirms⟩⟩ := hhandled.session_change hnew hold
    · exact Or.inl ⟨⟨p, now, hcall, hpeer.symm, hopens⟩, hnew⟩
    · exact Or.inr ⟨old, key, ⟨p, now, hcall, hpeer.symm, hconfirms⟩, hnew⟩
  · exact absurd (hends.session peer session hnew) hold

theorem confirms_of_outcome (hstart : h.Starts config) (hreply : h.outcome i = .ok (some reply))
    (htopic : reply.topic = .includeConfirm) :
    ∃ old new key, h.Confirms i reply.destination old new key := by
  rcases step_cases hstart i with ⟨p, now, hcall, hhandled⟩ | ⟨hnone, _⟩
  · have hanswered := hhandled
    rw [hreply] at hanswered
    obtain ⟨old, new, key, hconfirms, hhas⟩ := hanswered.confirms htopic
    obtain ⟨_, _, hsame, _, hspeaks, _⟩ := hconfirms.confirmation
    obtain rfl := Option.some.inj (Except.ok.inj hsame)
    rw [← hreply] at hconfirms
    rw [hspeaks.destination]
    exact ⟨old, new, key, ⟨p, now, hcall, rfl, hconfirms⟩, hhas⟩
  · rw [hnone] at hreply
    cases hreply

theorem completes_of_queued (hstart : h.Starts config) (hqueued : .included peer ∈ h.queued i) :
    ∃ old meshKey, h.Completes i peer old meshKey := by
  rcases step_cases hstart i with ⟨p, now, hcall, hhandled⟩ | ⟨_, hends⟩
  · rcases hhandled.queued (idle hstart i) hqueued with
      ⟨reason, heq, _⟩ | ⟨heq, old, meshKey, hcompletes⟩
    · cases heq
    · cases heq
      exact ⟨old, meshKey, p, now, hcall, rfl, hcompletes⟩
  · obtain ⟨other, reason, heq, _⟩ := hends.queued _ hqueued
    cases heq

/-- Whoever fails is left without a session. -/
theorem session?_of_failed (hstart : h.Starts config) {reason : InclusionError}
    (hqueued : .failed peer reason ∈ h.queued i) : h.session? (i + 1) peer = none := by
  rcases step_cases hstart i with ⟨p, now, hcall, hhandled⟩ | ⟨_, hends⟩
  · rcases hhandled.queued (idle hstart i) hqueued with ⟨reason, heq, hnone⟩ | ⟨heq, _⟩
    · cases heq
      exact hnone
    · cases heq
  · obtain ⟨other, reason, heq, hnone⟩ := hends.queued _ hqueued
    cases heq
    exact hnone

/-! ## The calls before -/

theorem session?_zero (hstart : h.Starts config) : h.session? 0 peer ≠ some session := by
  intro hsome
  have hnone : h.session? 0 peer = none :=
    congrArg (fun c : Inclusion => c.session? peer) hstart.inclusion
  rw [hnone] at hsome
  cases hsome

/-- A session that waits for an opening was opened by a request. -/
theorem opened_since (hstart : h.Starts config) (hsession : h.session? j peer = some session)
    (hstep : session.step = .awaitingOpen) :
    ∃ q, q < j ∧ h.Opens q peer session ∧
      ∀ t, q < t → t ≤ j → h.session? t peer = some session := by
  obtain ⟨q, hqj, hold, hsince⟩ :=
    exists_last_change (x := fun t => h.session? t peer) (session?_zero hstart) hsession
  rcases session_change hstart (hsince (q + 1) (Nat.lt_succ_self q) hqj) hold with
    hopens | ⟨_, _, hconfirms⟩
  · exact ⟨q, hqj, hopens, hsince⟩
  · obtain ⟨_, _, _, _, hconfirms⟩ := hconfirms.heard
    have hsuccess := hconfirms.step
    rw [hstep] at hsuccess
    cases hsuccess

/-- A session that waits for a success has confirmed an opening. -/
theorem confirmed_since (hstart : h.Starts config) (hsession : h.session? j peer = some session)
    (hstep : session.step = .awaitingSuccess) :
    ∃ o old key, o < j ∧ h.Confirms o peer old session key ∧
      ∀ t, o < t → t ≤ j → h.session? t peer = some session := by
  obtain ⟨o, hoj, hold, hsince⟩ :=
    exists_last_change (x := fun t => h.session? t peer) (session?_zero hstart) hsession
  rcases session_change hstart (hsince (o + 1) (Nat.lt_succ_self o) hoj) hold with
    hopens | ⟨old, key, hconfirms⟩
  · obtain ⟨_, _, _, _, hopens⟩ := hopens.heard
    have hopen := hopens.step
    rw [hstep] at hopen
    cases hopen
  · exact ⟨o, old, key, hoj, hconfirms, hsince⟩

theorem Confirms.had {old new : Session} {key : MeshKey} (h' : h.Confirms i peer old new key) :
    h.session? i peer = some old ∧ old.step = .awaitingOpen := by
  obtain ⟨p, _, _, rfl, hconfirms⟩ := h'.heard
  exact ⟨hconfirms.had, hconfirms.waiting⟩

theorem Completes.had {old : Session} {meshKey : MeshKey} (h' : h.Completes i peer old meshKey) :
    h.session? i peer = some old ∧ old.step = .awaitingSuccess := by
  obtain ⟨p, _, _, rfl, hcompletes⟩ := h'.heard
  exact ⟨hcompletes.had, hcompletes.waiting⟩

/-- Whatever a hub is asked and whatever packets it hears: it confirms an opening
only where the session that a request of the peer has opened was waiting for it,
and the opening names the peer under the key of that session; what it answers
otherwise does not depend on its mesh key; and whenever it takes a peer in, there
were a request, an opening and a success of that peer in this order, and between
them neither the end of the session nor another. -/
theorem no_step_skipped (hstart : h.Starts config) :
    (∀ i reply, h.outcome i = .ok (some reply) → reply.topic = .includeConfirm →
      ∃ q opened confirmed key, q < i ∧ h.Opens q reply.destination opened ∧
        (∀ t, q < t → t ≤ i → h.session? t reply.destination = some opened) ∧
        h.Confirms i reply.destination opened confirmed key) ∧
    (∀ i reply, h.outcome i = .ok (some reply) → reply.topic ≠ .includeConfirm →
      ∀ key, (h.call i).outcome ((h.party i).withKey key) = .ok (some reply)) ∧
    (∀ c peer, .included peer ∈ h.queued c →
      ∃ q o opened confirmed key meshKey, q < o ∧ o < c ∧ h.Opens q peer opened ∧
        h.Confirms o peer opened confirmed key ∧ h.Completes c peer confirmed meshKey ∧
        (∀ t, q < t → t ≤ o → h.session? t peer = some opened) ∧
        (∀ t, o < t → t ≤ c → h.session? t peer = some confirmed) ∧
        ∀ t reason, q ≤ t → t < c → .failed peer reason ∉ h.queued t) := by
  refine ⟨?_, ?_, ?_⟩
  · intro i reply hreply htopic
    obtain ⟨opened, confirmed, key, hconfirms⟩ := confirms_of_outcome hstart hreply htopic
    obtain ⟨q, hqi, hopens, hsince⟩ := opened_since hstart hconfirms.had.1 hconfirms.had.2
    exact ⟨q, opened, confirmed, key, hqi, hopens, hsince, hconfirms⟩
  · intro i reply hreply htopic key
    have hidle := idle hstart i
    unfold outcome at hreply
    cases hcall : h.call i with
    | handle p now =>
      rw [hcall] at hreply
      exact Party.handle_withKey hidle hreply htopic key
    | _ =>
      rw [hcall] at hreply
      cases hreply
  · intro c peer hqueued
    obtain ⟨confirmed, meshKey, hcompletes⟩ := completes_of_queued hstart hqueued
    obtain ⟨o, opened, key, hoc, hconfirms, hconfirmed⟩ :=
      confirmed_since hstart hcompletes.had.1 hcompletes.had.2
    obtain ⟨q, hqo, hopens, hopened⟩ := opened_since hstart hconfirms.had.1 hconfirms.had.2
    refine ⟨q, o, opened, confirmed, key, meshKey, hqo, hoc, hopens, hconfirms, hcompletes, hopened,
      hconfirmed, ?_⟩
    -- a peer that fails has no session right after, and this one always has one
    intro t reason hqt htc hfailed
    have hnone := session?_of_failed hstart hfailed
    rcases Nat.lt_or_ge t o with hto | hot
    · rw [hopened (t + 1) (by omega) (by omega)] at hnone
      cases hnone
    · rw [hconfirmed (t + 1) (by omega) (by omega)] at hnone
      cases hnone

/-! ## A peer that is taken in -/

def samplePeer : NodeId := ⟨2⟩

def sampleHubConfig : Config := .hub ⟨1⟩

def sampleMeshKey : MeshKey := ⟨Bytes.block 32 [7]⟩

/-- A packet of the peer that is sealed under this key and names the peer. -/
def sampleSealed (topic : Topic) (key : MeshKey) : Packet :=
  let header := Packet.fresh samplePeer sampleHubConfig.nodeId topic [] 0
  { header with
    payload := CryptoProvider.label key header.associatedData ++ samplePeer.toBytes }

/-- With nonces of zeros the key of the handshake is zeros too. -/
def sampleCalls : List Party.Call :=
  [.enable,
    .handle (.fresh samplePeer .broadcast .includeRequest (List.replicate 48 0) 0) 1,
    .handle (sampleSealed .includeOpen ⟨Bytes.block 32 []⟩) 2,
    .handle (sampleSealed .includeSuccess sampleMeshKey) 3]

def sampleHistory : History where
  start :=
    { inclusion := .create sampleHubConfig
      keys := { provider := .transparent, key := some sampleMeshKey }
      draws := { source := fun _ _ => [] } }
  call i := sampleCalls.getD i .drain

theorem no_step_skipped_sample :
    .included samplePeer ∈ sampleHistory.queued 3 ∧
      ∃ q o opened confirmed key meshKey, q < o ∧ o < 3 ∧
        sampleHistory.Opens q samplePeer opened ∧
        sampleHistory.Confirms o samplePeer opened confirmed key ∧
        sampleHistory.Completes 3 samplePeer confirmed meshKey ∧
        (∀ t, q < t → t ≤ o → sampleHistory.session? t samplePeer = some opened) ∧
        (∀ t, o < t → t ≤ 3 → sampleHistory.session? t samplePeer = some confirmed) ∧
        ∀ t reason, q ≤ t → t < 3 → .failed samplePeer reason ∉ sampleHistory.queued t := by
  have hstart : sampleHistory.Starts sampleHubConfig := ⟨rfl, rfl⟩
  have hqueued : .included samplePeer ∈ sampleHistory.queued 3 := by decide +kernel
  exact ⟨hqueued, (no_step_skipped hstart).2.2 3 samplePeer hqueued⟩

end History
end Meshwork
