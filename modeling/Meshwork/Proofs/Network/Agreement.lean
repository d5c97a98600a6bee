import Meshwork.Proofs.Network.Origins

/-!
# What a hub knows of a peer that it takes in

A session of a hub and the handshake of a device have the same key only if they
are the two ends of one exchange. So the opening of a session comes from a device
that answers this session. The success that ends it is bound to the mesh key and
not to the session: it may be older than the session, and then the device was a
member before and has left.
-/

namespace Meshwork
set_option autoImplicit false

namespace Run

/-- The key that a party derives for the handshake in which it speaks. -/
def derived? (r : Run) (i : Nat) : Option MeshKey :=
  match r.node? i, r.said? i with
  | some n, some reply =>
    match reply.topic with
    | .includeResponse => (r.session? (i + 1) n reply.destination).bind Session.bootstrap
    | .includeOpen => (r.own (i + 1) n).bind Session.bootstrap
    | _ => none
  | _, _ => none

/-- The request at `q` is the last that the party asked which speaks at `a`. -/
def LastAsked (r : Run) (q a : Nat) : Prop :=
  q < a ∧ ∃ n, r.node? a = some n ∧ r.Sends q n .includeRequest ∧
    ∀ t, q < t → t < a → ¬ r.Sends t n .includeRequest

/-- The response at `s` answers the request of the handshake in which the
response is answered at `a`. -/
def TwoEnds (r : Run) (s a : Nat) : Prop :=
  r.heard? a = some s ∧ ∃ q, r.heard? s = some q ∧ r.LastAsked q a

/-- Only the two ends of one exchange derive the same key. -/
def DerivesIdeally (r : Run) : Prop :=
  ∀ i j key, i ≠ j → r.derived? i = some key → r.derived? j = some key →
    r.TwoEnds i j ∨ r.TwoEnds j i

instance (r : Run) (i : Nat) (n : NodeId) (topic : Topic) : Decidable (r.Sends i n topic) :=
  inferInstanceAs (Decidable (_ ∧ _))

instance (r : Run) (q a : Nat) : Decidable (r.LastAsked q a) :=
  decidable_of_iff
    (q < a ∧ ∃ n ∈ r.node? a, r.Sends q n .includeRequest ∧
      ∀ t < a, q < t → ¬ r.Sends t n .includeRequest)
    ⟨fun ⟨hqa, n, hn, hasks, hlast⟩ => ⟨hqa, n, hn, hasks, fun t hqt hta => hlast t hta hqt⟩,
      fun ⟨hqa, n, hn, hasks, hlast⟩ => ⟨hqa, n, hn, hasks, fun t hta hqt => hlast t hqt hta⟩⟩

instance (r : Run) (s a : Nat) : Decidable (r.TwoEnds s a) :=
  inferInstanceAs (Decidable (_ ∧ ∃ q ∈ r.heard? s, r.LastAsked q a))

/-- At `c` a hub has had a session with a peer since it answered at `s`. -/
structure InSession (r : Run) (s c : Nat) (hub peer : NodeId) : Prop where
  before : s < c
  opened : r.Sends s hub .includeResponse
  addressed : (r.said? s).map Packet.destination = some peer
  since : ∀ t, s < t → t ≤ c → (r.session? t hub peer).isSome = true

/-- A device accepts at `j` the confirmation that a hub sent it at `i`. -/
structure Accepts (r : Run) (i j : Nat) (hub peer : NodeId) (key : MeshKey) : Prop where
  before : i < j
  confirmed : r.Sends i hub .includeConfirm
  addressed : (r.said? i).map Packet.destination = some peer
  heard : r.heard? j = some i
  held : r.key? i hub = some key
  installed : r.key? (j + 1) peer = some key
  success : r.Sends j peer .includeSuccess

/-- A request, the response to it and the opening that answers this, all of one
handshake of a device. -/
structure Exchange (r : Run) (q s a : Nat) (hub peer : NodeId) (old : Session) : Prop where
  asks : r.Asks q peer old
  opens : ∃ new key, r.Opens s q hub peer new key
  answers : ∃ new key, r.Answers a s peer old new key
  since : ∀ t, q < t → t ≤ a → r.own t peer = some old

variable {r : Run} {provider : CryptoProvider} {i k q s a : Nat} {n hub peer : NodeId}
variable {old new session : Session} {key : MeshKey}

/-- One frame has one topic. -/
theorem Sends.topic_eq {m : NodeId} {topic topic' : Topic} (h : r.Sends i n topic)
    (h' : r.Sends i m topic') : topic = topic' :=
  Option.some.inj (h.2.symm.trans h'.2)

theorem Sends.ne {m : NodeId} {j : Nat} {topic topic' : Topic} (h : r.Sends i n topic)
    (h' : r.Sends j m topic') (htopic : topic ≠ topic') : i ≠ j := by
  rintro rfl
  exact htopic (h.topic_eq h')

theorem sends_of_said {p : Packet} (hsaid : r.said? i = some p) :
    ∃ n, r.Sends i n p.topic := by
  have h := hsaid
  unfold said? at h
  cases hm : r.moves[i]? with
  | none =>
    rw [hm] at h
    cases h
  | some m => exact ⟨m.node, sends_of (by rw [node?, hm, Option.map_some]) hsaid rfl⟩

theorem Answers.derived (h : r.Answers a k n old new key) : r.derived? a = some key := by
  have htopic := h.sends.2
  unfold derived?
  rw [h.sends.1]
  cases hsaid : r.said? a with
  | none =>
    rw [hsaid] at htopic
    cases htopic
  | some e =>
    rw [hsaid] at htopic
    simp only
    rw [Option.some.inj htopic]
    simp only
    rw [h.has, Option.bind_some, h.agreed]

theorem Opens.derived (h : r.Opens s k hub peer new key) : r.derived? s = some key := by
  have htopic := h.sends.2
  have hpeer := h.response
  unfold derived?
  rw [h.sends.1]
  cases hsaid : r.said? s with
  | none =>
    rw [hsaid] at htopic
    cases htopic
  | some reply =>
    rw [hsaid] at htopic hpeer
    simp only
    rw [Option.some.inj htopic]
    simp only
    rw [Option.some.inj hpeer, h.has, Option.bind_some, h.agreed]

theorem lt_of_derived (h : r.derived? i = some key) : i < r.moves.length := by
  rcases Nat.lt_or_ge i r.moves.length with hlt | hle
  · exact hlt
  · unfold derived? node? at h
    rw [List.getElem?_eq_none hle] at h
    cases h

/-- It is enough to look at the pairs of moves of the run. -/
theorem derivesIdeally_of_pairs (h : ∀ i j : Fin r.moves.length, i < j → r.derived? i ≠ none →
    r.derived? i = r.derived? j → r.TwoEnds i j) : r.DerivesIdeally := by
  have hends {i j : Nat} {key : MeshKey} (hij : i < j) (hi : r.derived? i = some key)
      (hj : r.derived? j = some key) : r.TwoEnds i j := by
    refine h ⟨i, lt_of_derived hi⟩ ⟨j, lt_of_derived hj⟩ hij ?_ (hi.trans hj.symm)
    rw [hi]
    exact Option.some_ne_none key
  intro i j key hne hi hj
  rcases Nat.lt_or_gt_of_ne hne with hlt | hgt
  · exact Or.inl (hends hlt hi hj)
  · exact Or.inr (hends hgt hj hi)

/-- Equal keys make a session and an answer the ends of one exchange. -/
theorem exchange_of_key {old' : Session} (hstart : r.Starts provider) (hkeys : r.DerivesIdeally)
    (hopens : r.Opens s q hub peer new key) (hanswers : r.Answers a k peer old old' key) :
    ∃ q, r.Exchange q s a hub peer old := by
  have hne : s ≠ a := hopens.sends.ne hanswers.sends (by decide)
  rcases hkeys s a key hne hopens.derived hanswers.derived with hends | hends
  · obtain ⟨hheard, q', hq', hqa, n, hn, hsends, hlast⟩ := hends
    have hk : k = s := Option.some.inj (hanswers.heard.symm.trans hheard)
    have hq : q = q' := Option.some.inj (hopens.heard.symm.trans hq')
    have hpeer : peer = n := Option.some.inj (hanswers.sends.1.symm.trans hn)
    rw [← hq] at hqa hsends hlast
    rw [← hpeer] at hsends hlast
    obtain ⟨q₀, hq₀, hasks, hsince⟩ := asked_since hstart hanswers.had hanswers.waiting
    have hfirst : q = q₀ := by
      rcases Nat.lt_trichotomy q q₀ with hlt | heq | hgt
      · exact absurd hasks.sends (hlast q₀ hlt hq₀)
      · exact heq
      · have hidle := idle_of_sends hstart hsends
        rw [hsince q hgt (Nat.le_of_lt hqa)] at hidle
        cases hidle
    refine ⟨q, hfirst ▸ hasks, ⟨new, key, hopens⟩, ⟨old', key, hk ▸ hanswers⟩, ?_⟩
    rw [hfirst]
    exact hsince
  · have hq : q = a := Option.some.inj (hopens.heard.symm.trans hends.1)
    have hrequest := hopens.request
    rw [hq, hanswers.sends.2] at hrequest
    cases hrequest

/-- Whoever sent the opening that a hub confirms has the key of its session. -/
theorem answers_of_confirms (hstart : r.Starts provider) (hseal : SealsIdeally provider)
    (hconfirms : r.Confirms i k hub peer old new key) :
    ∃ k' before after, r.Answers k k' peer before after key := by
  obtain ⟨e, he, htopic, hsource, hopen⟩ := hconfirms.opening
  obtain ⟨n, hsends⟩ := sends_of_said he
  rw [htopic] at hsends
  obtain ⟨k', before, after, key', hanswers⟩ := answers_of_sends hstart hsends
  obtain ⟨hn, hsealed⟩ := hanswers.opening e he
  obtain rfl : peer = n := hsource.symm.trans hn
  rw [provider_party hstart] at hopen hsealed
  obtain ⟨rfl, _⟩ := hseal _ _ _ _ _ _ _ hsealed hopen
  exact ⟨k', before, after, hanswers⟩

/-- The confirmation that a device accepts was sent to it in a session with its key,
and carries the mesh key that the hub had then. -/
theorem confirms_of_installs {c : Nat} {meshKey : MeshKey} (hstart : r.Starts provider)
    (hseal : SealsIdeally provider) (hinstalls : r.Installs c i peer hub old key meshKey) :
    ∃ k before after, r.Confirms i k hub peer before after key ∧ r.key? i hub = some meshKey ∧
      (r.said? i).map Packet.destination = some peer := by
  obtain ⟨g, hg, htopic, hsource, hdestination, hopen⟩ := hinstalls.confirmation
  obtain ⟨n, hsends⟩ := sends_of_said hg
  rw [htopic] at hsends
  obtain ⟨k, peer', before, after, key', hconfirms⟩ := confirms_of_sends hstart hsends
  obtain ⟨held, hheld, hconfirmation⟩ := hconfirms.confirmation
  obtain ⟨hn, hpeer, hsealed⟩ := hconfirmation g hg
  obtain rfl : hub = n := hsource.symm.trans hn
  obtain rfl : peer = peer' := hdestination.symm.trans hpeer
  rw [provider_party hstart] at hopen hsealed
  obtain ⟨rfl, _, hplain⟩ := hseal _ _ _ _ _ _ _ hsealed hopen
  obtain rfl := MeshKey.toBytes_inj hplain
  refine ⟨k, before, after, hconfirms, hheld, ?_⟩
  rw [hg, Option.map_some, hdestination]

/-- Whoever sent the opening that a hub confirms answers the session of the hub. -/
theorem exchange_of_confirms (hstart : r.Starts provider) (hseal : SealsIdeally provider)
    (hkeys : r.DerivesIdeally) (hconfirms : r.Confirms i k hub peer old new key) :
    ∃ q s session, r.Exchange q s k hub peer session ∧
      ∀ t, s < t → t ≤ i → r.session? t hub peer = some old := by
  obtain ⟨k', before, after, hanswers⟩ := answers_of_confirms hstart hseal hconfirms
  obtain ⟨s, q, key₀, hsi, hopens, hsince⟩ :=
    opened_since hstart hconfirms.had hconfirms.waiting
  obtain rfl : key = key₀ :=
    Option.some.inj (hconfirms.kept.1.symm.trans hopens.agreed)
  obtain ⟨q, hexchange⟩ := exchange_of_key hstart hkeys hopens hanswers
  exact ⟨q, s, before, hexchange, hsince⟩

/-- The success that a hub takes was sent by a device which accepted a
confirmation of this hub, in an exchange that the confirmed session was part of. -/
theorem accepts_of_completes {c j : Nat} {meshKey : MeshKey} (hstart : r.Starts provider)
    (hseal : SealsIdeally provider) (hkeys : r.DerivesIdeally)
    (hcompletes : r.Completes c j hub peer old meshKey) :
    ∃ q s a i first last, r.Exchange q s a hub peer first ∧ s < i ∧ a < j ∧
      r.Accepts i j hub peer meshKey ∧ last.step = .awaitingConfirm ∧
      (∀ t, a < t → t ≤ j → r.own t peer = some last) ∧ r.own (j + 1) peer = none := by
  obtain ⟨f, hf, htopic, hsource, hdestination, hopen⟩ := hcompletes.success
  obtain ⟨n, hsends⟩ := sends_of_said hf
  rw [htopic] at hsends
  obtain ⟨i, hub', last, key, meshKey', hjoins⟩ := joins_of_sends hstart hsends
  obtain ⟨hn, hhub, hsealed⟩ := hjoins.success f hf
  obtain rfl : peer = n := hsource.symm.trans hn
  obtain rfl : hub = hub' := hdestination.symm.trans hhub
  rw [provider_party hstart] at hopen hsealed
  obtain ⟨rfl, _⟩ := hseal _ _ _ _ _ _ _ hsealed hopen
  obtain ⟨k', before, after, hconfirms, hheld, hpeer⟩ :=
    confirms_of_installs hstart hseal hjoins.installs
  -- the handshake of the device and the session of the hub, both with its key
  obtain ⟨a, s', first, key₀, haj, hanswers, hlast⟩ :=
    answered_since hstart hjoins.had hjoins.waiting
  obtain rfl : key = key₀ := Option.some.inj (hjoins.agreed.symm.trans hanswers.agreed)
  obtain ⟨s, q, key₁, hsi, hopens, _⟩ := opened_since hstart hconfirms.had hconfirms.waiting
  obtain rfl : key = key₁ := Option.some.inj (hconfirms.kept.1.symm.trans hopens.agreed)
  obtain ⟨q, hexchange⟩ := exchange_of_key hstart hkeys hopens hanswers
  refine ⟨q, s, a, i, first, last, hexchange, hsi, haj, ?_, hjoins.waiting, hlast, hjoins.done⟩
  exact ⟨hjoins.later, hconfirms.sends, hpeer, hjoins.heard, hheld, hjoins.installed, hsends⟩

/-- A session does not open between the confirmation that a device accepts and
its success, if the device answers the session. -/
theorem not_between {q' s' a' j : Nat} {first last : Session}
    (hlive : r.Exchange q s a hub peer old) (hpast : r.Exchange q' s' a' hub peer first)
    (hwaiting : last.step = .awaitingConfirm)
    (hlast : ∀ t, a' < t → t ≤ j → r.own t peer = some last) (hdone : r.own (j + 1) peer = none)
    (hs : s' < s) (hj : s < j) : False := by
  obtain ⟨_, _, hopens⟩ := hlive.opens
  obtain ⟨_, _, hanswers⟩ := hlive.answers
  obtain ⟨_, _, hopens'⟩ := hpast.opens
  obtain ⟨_, _, hanswers'⟩ := hpast.answers
  have hqs := hopens.later
  have hsa := hanswers.later
  have hqs' := hopens'.later
  have hsa' := hanswers'.later
  rcases Nat.lt_or_ge j a with hja | haj
  · -- the device was done before it answered, and had not asked anew
    have hown := hlive.since (j + 1) (by omega) (by omega)
    rw [hdone] at hown
    cases hown
  rcases Nat.lt_trichotomy a a' with hlt | heq | hgt
  · -- the device has answered, and waits for a response still
    have hown := hpast.since (a + 1) (by omega) (by omega)
    rw [hanswers.has] at hown
    have hstep := hpast.asks.step
    rw [← Option.some.inj hown, hanswers.step] at hstep
    cases hstep
  · -- one answer to two responses
    have hheard := hanswers.heard.symm.trans (heq ▸ hanswers'.heard)
    have hsame := Option.some.inj hheard
    omega
  · -- the device answers, and waits for a confirmation already
    have hown := hlast a hgt haj
    rw [hanswers.had] at hown
    have hstep := hanswers.waiting
    rw [Option.some.inj hown, hwaiting] at hstep
    cases hstep

/-- When a hub takes a peer in, the peer has answered this very session, and has
accepted a confirmation that this hub sent it with the mesh key. It is the
confirmation of this very session, unless the success is older than the session
and the peer has left since. -/
theorem included_of_accepted {c : Nat} (hstart : r.Starts provider)
    (hseal : SealsIdeally provider) (hkeys : r.DerivesIdeally)
    (hrole : (r.party 0 hub).inclusion.role = .hub)
    (hincluded : (r.party (c + 1) hub).inclusion.events =
      (r.party c hub).inclusion.events ++ [.included peer]) :
    ∃ s a i j key, r.InSession s c hub peer ∧
      (r.Sends a peer .includeOpen ∧ r.heard? a = some s ∧ a < c) ∧
      r.Accepts i j hub peer key ∧ (r.heard? c = some j ∧ j < c ∧ r.key? c hub = some key) ∧
      (s < i ∨ j < s ∧ ∃ t, j < t ∧ t < s ∧ r.moves[t]? = some ⟨peer, .leave⟩) := by
  obtain ⟨j, old, key, hcompletes⟩ := completes_of_included hstart hrole hincluded
  obtain ⟨i₀, a, opened, key₀, hic, hconfirms, hconfirmed⟩ :=
    confirmed_since hstart hcompletes.had hcompletes.waiting
  obtain ⟨q, s, asked, hlive, hopened⟩ := exchange_of_confirms hstart hseal hkeys hconfirms
  obtain ⟨q', s', a', i, first, last, hpast, hsi, haj, haccepts, hwaiting, hlast, hdone⟩ :=
    accepts_of_completes hstart hseal hkeys hcompletes
  obtain ⟨_, _, hopens⟩ := hlive.opens
  obtain ⟨_, _, hanswers⟩ := hlive.answers
  have hqs := hopens.later
  have hsa := hanswers.later
  have hai := hconfirms.later
  have hij := haccepts.before
  have hsession : r.InSession s c hub peer := by
    refine ⟨by omega, hopens.sends, hopens.response, ?_⟩
    intro t hst htc
    rcases Nat.lt_or_ge i₀ t with hlt | hle
    · rw [hconfirmed t hlt htc]
      rfl
    · rw [hopened t hst hle]
      rfl
  refine ⟨s, a, i, j, key, hsession, ⟨hanswers.sends, hanswers.heard, by omega⟩, haccepts,
    ⟨hcompletes.heard, hcompletes.later, hcompletes.key⟩, ?_⟩
  rcases Nat.lt_trichotomy s i with hlt | heq | hgt
  · exact Or.inl hlt
  · exact absurd heq (hopens.sends.ne haccepts.confirmed (by decide))
  right
  rcases Nat.lt_trichotomy j s with hjs | hjs | hsj
  · refine ⟨hjs, ?_⟩
    have hjq : j < q := by
      rcases Nat.lt_or_ge j q with hlt | hqj
      · exact hlt
      · have hown := hlive.since (j + 1) (by omega) (by omega)
        rw [hdone] at hown
        cases hown
    obtain ⟨t, hjt, htq, hleave⟩ := left_of_key hstart haccepts.installed hlive.asks.keyless hjq
    exact ⟨t, hjt, Nat.lt_trans htq hqs, hleave⟩
  · exact absurd hjs.symm (hopens.sends.ne haccepts.success (by decide))
  · exact (not_between hlive hpast hwaiting hlast hdone (by omega) hsj).elim

/-! ## A success heard twice -/

def sampleHub : NodeId := ⟨1⟩

def sampleDevice : NodeId := ⟨2⟩

/-- Draws are told apart by their numbers. -/
def sampleStart : Network where
  party n :=
    { inclusion := .create (if n = sampleHub then .hub n else .standard n)
      keys := { provider := .transparent }
      draws := { source := fun _ number => [UInt8.ofNat number] } }

/-- A device is taken in, leaves and asks again. The hub confirms it and then
hears its first success once more. -/
def sampleRun : Run where
  start := sampleStart
  moves :=
    [⟨sampleHub, .enable⟩, ⟨sampleDevice, .request 0⟩, ⟨sampleHub, .deliver 1 1⟩,
     ⟨sampleDevice, .deliver 2 2⟩, ⟨sampleHub, .deliver 3 3⟩, ⟨sampleDevice, .deliver 4 4⟩,
     ⟨sampleHub, .deliver 5 5⟩, ⟨sampleDevice, .leave⟩, ⟨sampleDevice, .request 10⟩,
     ⟨sampleHub, .deliver 8 11⟩, ⟨sampleDevice, .deliver 9 12⟩, ⟨sampleHub, .deliver 10 13⟩,
     ⟨sampleHub, .deliver 5 14⟩]

theorem sampleRun_starts : sampleRun.Starts .transparent where
  air := rfl
  setup n := by
    change (if n = sampleHub then Config.hub n else Config.standard n).nodeId = n
    split <;> rfl
  own _ := rfl
  sessions _ := rfl
  provider _ := rfl

theorem sampleRun_derivesIdeally : sampleRun.DerivesIdeally :=
  derivesIdeally_of_pairs (by decide +kernel)

theorem included_of_accepted_first :
    ∃ s a i j key, sampleRun.InSession s 6 sampleHub sampleDevice ∧
      (sampleRun.Sends a sampleDevice .includeOpen ∧ sampleRun.heard? a = some s ∧ a < 6) ∧
      sampleRun.Accepts i j sampleHub sampleDevice key ∧
      (sampleRun.heard? 6 = some j ∧ j < 6 ∧ sampleRun.key? 6 sampleHub = some key) ∧
      (s < i ∨ j < s ∧ ∃ t, j < t ∧ t < s ∧ sampleRun.moves[t]? = some ⟨sampleDevice, .leave⟩) :=
  included_of_accepted sampleRun_starts CryptoProvider.transparent_sealsIdeally
    sampleRun_derivesIdeally rfl (by decide +kernel)

/-- The second time the device is taken in by a success of its first session, and
has not accepted the confirmation of the second. -/
theorem included_by_old_success :
    sampleRun.Starts .transparent ∧ SealsIdeally .transparent ∧ sampleRun.DerivesIdeally ∧
      (sampleRun.party 0 sampleHub).inclusion.role = .hub ∧
      (sampleRun.party 13 sampleHub).inclusion.events =
        (sampleRun.party 12 sampleHub).inclusion.events ++ [.included sampleDevice] ∧
      ¬ ∃ s i j key, sampleRun.InSession s 12 sampleHub sampleDevice ∧
        sampleRun.Accepts i j sampleHub sampleDevice key ∧ s < i := by
  refine ⟨sampleRun_starts, CryptoProvider.transparent_sealsIdeally, sampleRun_derivesIdeally,
    rfl, by decide +kernel, ?_⟩
  rintro ⟨s, i, j, key, hsession, haccepts, hsi⟩
  have hs : 9 ≤ s := by
    rcases Nat.lt_or_ge s 9 with hlt | hle
    · have hopen := hsession.since 9 hlt (by decide)
      have hclosed : (sampleRun.session? 9 sampleHub sampleDevice).isSome = false := by
        decide +kernel
      rw [hclosed] at hopen
      cases hopen
    · exact hle
  have hj : sampleRun.heard? j = some i := haccepts.heard
  have hlate : ∀ j : Fin 13, (sampleRun.heard? j).getD 0 ≤ 10 := by decide
  have hi : i = 10 := by
    rcases Nat.lt_or_ge j 13 with hlt | hge
    · have hle := hlate ⟨j, hlt⟩
      simp only [hj, Option.getD_some] at hle
      omega
    · unfold heard? at hj
      rw [List.getElem?_eq_none hge] at hj
      cases hj
  have hopening : sampleRun.Sends 10 sampleDevice .includeOpen := by decide +kernel
  rw [hi] at haccepts
  cases haccepts.confirmed.topic_eq hopening

end Run
end Meshwork
