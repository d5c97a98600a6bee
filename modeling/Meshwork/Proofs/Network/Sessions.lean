import Meshwork.Proofs.Handshake.Changes
import Meshwork.Proofs.Network.Steps

/-!
# What a move does to sessions

The handshake of a device changes in two kinds of moves, the sessions of a hub in
two others. Each kind puts a frame of its own topic on the air, so that a frame
which is heard tells what its sender did.
-/

namespace Meshwork
set_option autoImplicit false

namespace Run

/-- A device asks for inclusion. -/
structure Asks (r : Run) (i : Nat) (n : NodeId) (new : Session) : Prop where
  sends : r.Sends i n .includeRequest
  keyless : r.key? i n = none
  had : r.own i n = none
  has : r.own (i + 1) n = some new
  step : new.step = .awaitingResponse

/-- A device hears a response and answers with an opening. -/
structure Answers (r : Run) (i k : Nat) (n : NodeId) (old new : Session) (key : MeshKey) :
    Prop where
  sends : r.Sends i n .includeOpen
  heard : r.heard? i = some k
  later : k < i
  had : r.own i n = some old
  waiting : old.step = .awaitingResponse
  has : r.own (i + 1) n = some new
  step : new.step = .awaitingConfirm
  agreed : new.bootstrap = some key
  opening : ∀ e, r.said? i = some e → e.source = n ∧
    Seals (r.party i n).keys.provider key e.associatedData n.toBytes e.payload

/-- A hub hears a request and answers with a response. -/
structure Opens (r : Run) (i k : Nat) (hub peer : NodeId) (new : Session) (key : MeshKey) :
    Prop where
  sends : r.Sends i hub .includeResponse
  heard : r.heard? i = some k
  later : k < i
  had : r.session? i hub peer = none
  has : r.session? (i + 1) hub peer = some new
  step : new.step = .awaitingOpen
  agreed : new.bootstrap = some key
  request : (r.said? k).map Packet.topic = some .includeRequest
  response : (r.said? i).map Packet.destination = some peer

/-- A hub hears an opening and answers with a confirmation. -/
structure Confirms (r : Run) (i k : Nat) (hub peer : NodeId) (old new : Session)
    (key : MeshKey) : Prop where
  sends : r.Sends i hub .includeConfirm
  heard : r.heard? i = some k
  later : k < i
  had : r.session? i hub peer = some old
  waiting : old.step = .awaitingOpen
  has : r.session? (i + 1) hub peer = some new
  step : new.step = .awaitingSuccess
  kept : old.bootstrap = some key ∧ new.bootstrap = some key
  opening : ∃ e, r.said? k = some e ∧ e.topic = .includeOpen ∧ e.source = peer ∧
    (r.party i hub).keys.provider.unsealText key e.associatedData e.payload = .ok peer.toBytes
  confirmation : ∃ meshKey, r.key? i hub = some meshKey ∧
    ∀ g, r.said? i = some g → g.source = hub ∧ g.destination = peer ∧
      Seals (r.party i hub).keys.provider key g.associatedData meshKey.toBytes g.payload

/-- A device hears a confirmation and installs the key that it carries. -/
structure Installs (r : Run) (i k : Nat) (n hub : NodeId) (old : Session)
    (key meshKey : MeshKey) : Prop where
  heard : r.heard? i = some k
  later : k < i
  had : r.own i n = some old
  waiting : old.step = .awaitingConfirm
  agreed : old.bootstrap = some key
  installed : r.key? (i + 1) n = some meshKey
  confirmation : ∃ g, r.said? k = some g ∧ g.topic = .includeConfirm ∧ g.source = hub ∧
    g.destination = n ∧
    (r.party i n).keys.provider.unsealText key g.associatedData g.payload = .ok meshKey.toBytes

/-- A device hears a confirmation, installs the key and sends so. -/
structure Joins (r : Run) (i k : Nat) (n hub : NodeId) (old : Session) (key meshKey : MeshKey) :
    Prop where
  sends : r.Sends i n .includeSuccess
  heard : r.heard? i = some k
  later : k < i
  had : r.own i n = some old
  waiting : old.step = .awaitingConfirm
  agreed : old.bootstrap = some key
  done : r.own (i + 1) n = none
  installed : r.key? (i + 1) n = some meshKey
  confirmation : ∃ g, r.said? k = some g ∧ g.topic = .includeConfirm ∧ g.source = hub ∧
    g.destination = n ∧
    (r.party i n).keys.provider.unsealText key g.associatedData g.payload = .ok meshKey.toBytes
  success : ∀ f, r.said? i = some f → f.source = n ∧ f.destination = hub ∧
    Seals (r.party i n).keys.provider meshKey f.associatedData n.toBytes f.payload

/-- A hub hears a success and takes the peer in. -/
structure Completes (r : Run) (i k : Nat) (hub peer : NodeId) (old : Session)
    (meshKey : MeshKey) : Prop where
  heard : r.heard? i = some k
  later : k < i
  had : r.session? i hub peer = some old
  waiting : old.step = .awaitingSuccess
  key : r.key? i hub = some meshKey
  success : ∃ f, r.said? k = some f ∧ f.topic = .includeSuccess ∧ f.source = peer ∧
    f.destination = hub ∧
    (r.party i hub).keys.provider.unsealText meshKey f.associatedData f.payload =
      .ok peer.toBytes

variable {r : Run} {provider : CryptoProvider} {i : Nat} {n hub peer : NodeId} {session : Session}

theorem Joins.installs {k : Nat} {old : Session} {key meshKey : MeshKey}
    (h : r.Joins i k n hub old key meshKey) : r.Installs i k n hub old key meshKey :=
  ⟨h.heard, h.later, h.had, h.waiting, h.agreed, h.installed, h.confirmation⟩

theorem sends_of {topic : Topic} {p : Packet} (hn : r.node? i = some n)
    (hsaid : r.said? i = some p) (htopic : p.topic = topic) : r.Sends i n topic :=
  ⟨hn, by rw [hsaid, Option.map_some, htopic]⟩

/-! ## What a frame on the air tells -/

/-- Whatever is said answers a message or is a request. -/
theorem spoken {topic : Topic} (hstart : r.Starts provider) (h : r.Sends i n topic) :
    (∃ reply k now p, r.said? i = some reply ∧ r.heard? i = some k ∧ k < i ∧
        r.said? k = some p ∧ Party.askedTopic? topic = some p.topic ∧
        Party.Handled (r.party i n) p now (.ok (some reply)) (r.party (i + 1) n)) ∨
      topic = .includeRequest ∧
        ∃ now p, r.said? i = some p ∧
          Party.Requested (r.party i n) now (.ok p) (r.party (i + 1) n) := by
  obtain ⟨hn, htopic⟩ := h
  cases hsaid : r.said? i with
  | none =>
    rw [hsaid] at htopic
    cases htopic
  | some reply =>
    rw [hsaid] at htopic
    obtain rfl : reply.topic = topic := Option.some.inj htopic
    rcases step_cases hstart hn with
      ⟨k, now, p, result, hheard, hlt, hframe, hhandled, hresult⟩ |
        ⟨now, result, hrequested, hresult⟩ | ⟨a, _, hnone, _⟩
    · left
      rw [hsaid] at hresult
      cases result with
      | error e => cases hresult
      | ok reply' =>
        obtain rfl : some reply = reply' := hresult
        exact ⟨reply, k, now, p, rfl, hheard, hlt, hframe, hhandled.topic, hhandled⟩
    · right
      rw [hsaid] at hresult
      cases result with
      | error e => cases hresult
      | ok p =>
        obtain rfl := Option.some.inj hresult
        exact ⟨hrequested.topic, now, reply, rfl, hrequested⟩
    · rw [hsaid] at hnone
      cases hnone

/-- A device asks only while no handshake of its own is under way. -/
theorem idle_of_sends (hstart : r.Starts provider) (h : r.Sends i n .includeRequest) :
    r.own i n = none := by
  rcases spoken hstart h with ⟨_, _, _, _, _, _, _, _, hasked, _⟩ | ⟨_, now, p, _, hrequested⟩
  · cases hasked
  · generalize r.party (i + 1) n = after at hrequested
    cases hrequested with
    | asked draws session p hrole hstate hkey hown => exact hown

theorem answers_of_sends (hstart : r.Starts provider) (h : r.Sends i n .includeOpen) :
    ∃ k old new key, r.Answers i k n old new key := by
  have hid := nodeId_party hstart i n
  rcases spoken hstart h with
    ⟨reply, k, now, p, hsaid, hheard, hlt, _, hasked, hhandled⟩ | ⟨htopic, _⟩
  · have hresponse : p.topic = .includeResponse := (Option.some.inj hasked).symm
    have hafter : r.own (i + 1) n = (r.party (i + 1) n).inclusion.own := rfl
    generalize r.party (i + 1) n = after at hhandled hafter
    cases hhandled with
    | answered draws old hubKey hubNonce key _ _ haddressed hown hpeer hstep hoffer hderive
        hspeaks hpayload =>
      refine ⟨k, old, _, key, h, hheard, hlt, hown, hstep, hafter, rfl, rfl, ?_⟩
      intro e he
      rw [hsaid] at he
      obtain rfl := Option.some.inj he
      rw [hid] at hpayload
      exact ⟨hspeaks.source.trans hid, hpayload⟩
    | _ => simp_all
  · cases htopic

theorem confirms_of_step {k : Nat} {p : Packet} {old new : Session} {key : MeshKey}
    {result : Except InclusionError (Option Packet)} (hstart : r.Starts provider)
    (hn : r.node? i = some hub) (hheard : r.heard? i = some k) (hlt : k < i)
    (hframe : r.said? k = some p) (hsaid : r.said? i = result.toOption.join)
    (hconfirms : (r.party i hub).Confirms p result old new key)
    (hhas : r.session? (i + 1) hub p.source = some new) :
    r.Confirms i k hub p.source old new key := by
  obtain ⟨reply, meshKey, hresult, hkey, hspeaks, hpayload⟩ := hconfirms.confirmation
  have hreply : r.said? i = some reply := by
    rw [hsaid, hresult]
    rfl
  refine ⟨sends_of hn hreply hspeaks.topic, hheard, hlt, hconfirms.had, hconfirms.waiting, hhas,
    hconfirms.step, hconfirms.kept, ⟨p, hframe, hconfirms.topic, rfl, hconfirms.opening⟩, meshKey,
    hkey, ?_⟩
  intro g hg
  rw [hreply] at hg
  obtain rfl := Option.some.inj hg
  exact ⟨hspeaks.source.trans (nodeId_party hstart i hub), hspeaks.destination, hpayload⟩

theorem confirms_of_sends (hstart : r.Starts provider) (h : r.Sends i hub .includeConfirm) :
    ∃ k peer old new key, r.Confirms i k hub peer old new key := by
  rcases spoken hstart h with
    ⟨reply, k, now, p, hsaid, hheard, hlt, hframe, _, hhandled⟩ | ⟨htopic, _⟩
  · have hreply : reply.topic = .includeConfirm := by
      have hsent := h.2
      rw [hsaid] at hsent
      exact Option.some.inj hsent
    obtain ⟨old, new, key, hconfirms, hhas⟩ := hhandled.confirms hreply
    refine ⟨k, p.source, old, new, key, ?_⟩
    exact confirms_of_step hstart h.1 hheard hlt hframe (hsaid.trans rfl) hconfirms hhas
  · cases htopic

theorem joins_of_sends (hstart : r.Starts provider) (h : r.Sends i n .includeSuccess) :
    ∃ k hub old key meshKey, r.Joins i k n hub old key meshKey := by
  have hid := nodeId_party hstart i n
  rcases spoken hstart h with
    ⟨reply, k, now, p, hsaid, hheard, hlt, hframe, hasked, hhandled⟩ | ⟨htopic, _⟩
  · have hconfirm : p.topic = .includeConfirm := (Option.some.inj hasked).symm
    have hafter : r.own (i + 1) n = (r.party (i + 1) n).inclusion.own := rfl
    have hinstalled : r.key? (i + 1) n = (r.party (i + 1) n).keys.key := rfl
    generalize r.party (i + 1) n = after at hhandled hafter hinstalled
    cases hhandled with
    | joined draws old key meshKey keys _ _ haddressed hown hpeer hstep hbootstrap hopen hinstall
        hresult =>
      refine ⟨k, p.source, old, key, meshKey, h, hheard, hlt, hown, hstep, hbootstrap, hafter,
        ?_, ⟨p, hframe, hconfirm, rfl, haddressed.trans hid, hopen⟩, ?_⟩
      · rw [hinstalled, (KeyRing.eq_of_install hinstall).2]
      · intro f hf
        rw [hsaid] at hf
        obtain rfl := Option.some.inj hf
        rcases hresult with ⟨e, he⟩ | ⟨reply', heq, hspeaks, hpayload⟩
        · cases he
        · cases heq
          rw [hid] at hpayload
          exact ⟨hspeaks.source.trans hid, hspeaks.destination, hpayload⟩
    | _ => simp_all
  · cases htopic

/-! ## Where sessions change -/

/-- A handshake of a device changes when it asks and when it answers. -/
theorem own_change (hstart : r.Starts provider) (hnew : r.own (i + 1) n = some session)
    (hold : r.own i n ≠ some session) :
    r.Asks i n session ∨ ∃ k old key, r.Answers i k n old session key := by
  by_cases hn : r.node? i = some n
  · have hafter : (r.party (i + 1) n).inclusion.own = some session := hnew
    rcases step_cases hstart hn with
      ⟨k, now, p, result, hheard, hlt, hframe, hhandled, hsaid⟩ | ⟨now, result, hrequested, hsaid⟩ |
        ⟨a, _, _, hfades⟩
    · generalize r.party (i + 1) n = after at hhandled hafter
      cases hhandled with
      | peerFailed e draws session hsession =>
        exact absurd ((Inclusion.failPeer_own _ p.source e).symm.trans hafter) hold
      | ownFailed e draws old hown hpeer =>
        change ((r.party i n).inclusion.failOwn e).own = _ at hafter
        rw [Inclusion.failOwn_eq e hown] at hafter
        cases hafter
      | answered draws before hubKey hubNonce bootstrap reply htopic haddressed hown hpeer hstep
          hoffer hderive hspeaks =>
        obtain ⟨k, old, new, key, hanswers⟩ :=
          answers_of_sends hstart (sends_of hn hsaid hspeaks.topic)
        obtain rfl : new = session := Option.some.inj (hanswers.has.symm.trans hnew)
        exact Or.inr ⟨k, old, key, hanswers⟩
      | joined => cases hafter
      | _ => exact absurd hafter hold
    · generalize r.party (i + 1) n = after at hrequested hafter
      cases hrequested with
      | refused e draws => exact absurd hafter hold
      | asked draws session' p hrole hstate hkey hown hfirst hspeaks hpayload =>
        have hsession := Option.some.inj hafter
        refine Or.inl ⟨sends_of hn hsaid hspeaks.topic, Option.not_isSome_iff_eq_none.mp ?_, hown,
          hnew, ?_⟩
        · exact Bool.eq_false_iff.mp hkey
        · rw [← hsession, hfirst]
          rfl
    · rcases hfades.own with hsame | hnone
      · exact absurd (hsame.symm.trans hafter) hold
      · rw [hnone] at hafter
        cases hafter
  · unfold own at hnew
    rw [party_other hn] at hnew
    exact absurd hnew hold

/-- A session of a hub changes when it opens and when it is confirmed. -/
theorem session_change (hstart : r.Starts provider)
    (hnew : r.session? (i + 1) hub peer = some session)
    (hold : r.session? i hub peer ≠ some session) :
    (∃ k key, r.Opens i k hub peer session key) ∨
      ∃ k old key, r.Confirms i k hub peer old session key := by
  by_cases hn : r.node? i = some hub
  · rcases step_cases hstart hn with
      ⟨k, now, p, result, hheard, hlt, hframe, hhandled, hsaid⟩ | ⟨now, result, hrequested, _⟩ |
        ⟨a, _, _, hfades⟩
    · obtain ⟨rfl, hopens | ⟨old, key, hconfirms⟩⟩ := hhandled.session_change hnew hold
      · obtain ⟨key, hkey⟩ := hopens.agreed
        obtain ⟨reply, hresult, hspeaks⟩ := hopens.response
        have hreply : r.said? i = some reply := by
          rw [hsaid, hresult]
          rfl
        refine Or.inl ⟨k, key, sends_of hn hreply hspeaks.topic, hheard, hlt, hopens.had, hnew,
          hopens.step, hkey, ?_, ?_⟩
        · rw [hframe, Option.map_some, hopens.topic]
        · rw [hreply]
          exact congrArg some hspeaks.destination
      · exact Or.inr ⟨k, old, key,
          confirms_of_step hstart hn hheard hlt hframe hsaid hconfirms hnew⟩
    · have hafter : (r.party (i + 1) hub).inclusion.session? peer = some session := hnew
      generalize r.party (i + 1) hub = after at hrequested hafter
      cases hrequested with
      | _ => exact absurd hafter hold
    · exact absurd (hfades.session peer session hnew) hold
  · unfold session? at hnew
    rw [party_other hn] at hnew
    exact absurd hnew hold

/-! ## Taking a peer in -/

/-- A hub takes a peer in only on hearing a success. -/
theorem completes_of_included (hstart : r.Starts provider)
    (hrole : (r.party 0 hub).inclusion.role = .hub)
    (h : (r.party (i + 1) hub).inclusion.events =
      (r.party i hub).inclusion.events ++ [.included peer]) :
    ∃ k old meshKey, r.Completes i k hub peer old meshKey := by
  have hidle : (r.party i hub).inclusion.own = none := own_hub hstart hrole i
  by_cases hn : r.node? i = some hub
  · have hid := nodeId_party hstart i hub
    rcases step_cases hstart hn with
      ⟨k, now, p, result, hheard, hlt, hframe, hhandled, hsaid⟩ | ⟨now, result, hrequested, _⟩ |
        ⟨a, _, _, hfades⟩
    · have hqueued : .included peer ∈
          (r.party i hub).inclusion.queued (r.party (i + 1) hub).inclusion := by
        rw [Inclusion.queued_of_append h]
        exact List.mem_singleton.mpr rfl
      rcases hhandled.queued hidle hqueued with ⟨_, heq, _⟩ | ⟨heq, old, meshKey, hcompletes⟩
      · cases heq
      · cases heq
        exact ⟨k, old, meshKey, hheard, hlt, hcompletes.had, hcompletes.waiting, hcompletes.key, p,
          hframe, hcompletes.topic, rfl, hcompletes.addressed.trans hid, hcompletes.success⟩
    · generalize r.party (i + 1) hub = after at hrequested h
      cases hrequested with
      | _ => exact absurd h Party.ne_append_singleton
    · exact absurd h (hfades.events peer)
  · rw [party_other hn] at h
    exact absurd h Party.ne_append_singleton

end Run
end Meshwork
