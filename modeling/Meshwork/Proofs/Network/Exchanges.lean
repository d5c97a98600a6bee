import Meshwork.Proofs.Network.Agreement

/-!
# Both ends of an exchange

What a request and a response carry is what their senders have drawn, and whoever
hears them derives with it. If only the two ends of one exchange derive the same
key, a device and a hub that come to one key have met each other: the hub has heard
the request of the device, the device the response of the hub, and both have used
the same key pairs and nonces.
-/

namespace Meshwork
set_option autoImplicit false

namespace Run

/-- The public key and the nonce that a request or a response carries. -/
def offered? (r : Run) (i : Nat) : Option (Bytes.Block 32 × Bytes.Block 16) :=
  match r.said? i with
  | some p =>
    if p.topic = .includeRequest ∨ p.topic = .includeResponse then
      (Inclusion.parseOffer p.payload).toOption
    else none
  | none => none

variable {r : Run} {provider : CryptoProvider} {i k q s a : Nat} {n hub peer : NodeId}
variable {asked opened answered old new session : Session} {key : MeshKey}

/-! ## What is carried -/

theorem offered?_of_said {p : Packet} (hsaid : r.said? i = some p)
    (htopic : p.topic = .includeRequest ∨ p.topic = .includeResponse)
    {offer : Bytes.Block 32 × Bytes.Block 16}
    (hoffer : Inclusion.parseOffer p.payload = .ok offer) : r.offered? i = some offer := by
  unfold offered?
  rw [hsaid]
  simp only
  rw [if_pos htopic, hoffer]
  rfl

theorem Asks.offered (hstart : r.Starts provider) (h : r.Asks q n asked) :
    r.offered? q = some (asked.keyPair.publicKey, asked.nonce) := by
  have hafter : (r.party (q + 1) n).inclusion.own = some asked := h.has
  rcases spoken hstart h.sends with
    ⟨_, _, _, _, _, _, _, _, hasked, _⟩ | ⟨_, now, p, hsaid, hrequested⟩
  · cases hasked
  · generalize r.party (q + 1) n = after at hrequested hafter
    cases hrequested with
    | asked draws session p hrole hstate hkey hown hnew hspeaks hpayload =>
      obtain rfl : session = asked := Option.some.inj hafter
      refine offered?_of_said hsaid (Or.inl hspeaks.topic) ?_
      rw [hpayload, Inclusion.parseOffer_offer]

/-- What a hub has derived the key of a session from. -/
theorem Opens.derives (hstart : r.Starts provider) (h : r.Opens s q hub peer opened key) :
    (∃ offer, r.offered? q = some offer ∧
        (r.party s hub).deriveBootstrap opened.keyPair offer.1 offer.2 opened.nonce peer hub =
          .ok key) ∧
      r.offered? s = some (opened.keyPair.publicKey, opened.nonce) ∧
      (r.said? s).map Packet.source = some hub := by
  have hid := nodeId_party hstart s hub
  have hpeer := h.response
  rcases spoken hstart h.sends with
    ⟨reply, k, now, p, hsaid, hheard, _, hframe, hasked, hhandled⟩ | ⟨htopic, _⟩
  · have hrequest : p.topic = .includeRequest := (Option.some.inj hasked).symm
    have hafter : (r.party (s + 1) hub).inclusion.session? peer = some opened := h.has
    obtain rfl : q = k := Option.some.inj (h.heard.symm.trans hheard)
    rw [hsaid] at hpeer ⊢
    generalize r.party (s + 1) hub = after at hhandled hafter
    cases hhandled with
    | opened draws session peerKey peerNonce bootstrap _ htopic hrole haccepting hsession hroom
        hkey hoffer hnew hderive hspeaks hpayload =>
      obtain rfl : p.source = peer :=
        hspeaks.destination.symm.trans (Option.some.inj hpeer)
      obtain rfl := Option.some.inj ((Inclusion.session?_putSession_self _ _ _).symm.trans hafter)
      obtain rfl : bootstrap = key := Option.some.inj h.agreed
      rw [hid] at hderive
      refine ⟨⟨(peerKey, peerNonce), offered?_of_said hframe (Or.inl htopic) hoffer, hderive⟩, ?_,
        congrArg some (hspeaks.source.trans hid)⟩
      refine offered?_of_said hsaid (Or.inr hspeaks.topic) ?_
      rw [hpayload, Inclusion.parseOffer_offer]
    | confirmed draws session bootstrap meshKey _ htopic =>
      rw [hrequest] at htopic
      cases htopic
    | answered draws session hubKey hubNonce bootstrap _ htopic =>
      rw [hrequest] at htopic
      cases htopic
    | joined draws session bootstrap meshKey keys _ htopic =>
      rw [hrequest] at htopic
      cases htopic
  · cases htopic

/-- What a device has derived the key of its handshake from. -/
theorem Answers.derives (hstart : r.Starts provider) (h : r.Answers a k n old new key) :
    ∃ hub offer, (r.said? k).map Packet.source = some hub ∧ r.offered? k = some offer ∧
      (r.party a n).deriveBootstrap old.keyPair offer.1 old.nonce offer.2 n hub = .ok key ∧
      new.keyPair = old.keyPair ∧ new.nonce = old.nonce := by
  have hid := nodeId_party hstart a n
  rcases spoken hstart h.sends with
    ⟨reply, k', now, p, hsaid, hheard, _, hframe, hasked, hhandled⟩ | ⟨htopic, _⟩
  · have hresponse : p.topic = .includeResponse := (Option.some.inj hasked).symm
    have hafter : (r.party (a + 1) n).inclusion.own = some new := h.has
    have hbefore : (r.party a n).inclusion.own = some old := h.had
    obtain rfl : k = k' := Option.some.inj (h.heard.symm.trans hheard)
    generalize r.party (a + 1) n = after at hhandled hafter
    cases hhandled with
    | answered draws session hubKey hubNonce bootstrap _ htopic haddressed hown hpeer hstep hoffer
        hderive hspeaks hpayload =>
      obtain rfl : session = old := Option.some.inj (hown.symm.trans hbefore)
      obtain rfl := Option.some.inj hafter
      obtain rfl : bootstrap = key := Option.some.inj h.agreed
      rw [hid] at hderive
      refine ⟨p.source, (hubKey, hubNonce), ?_, offered?_of_said hframe (Or.inr htopic) hoffer,
        hderive, rfl, rfl⟩
      rw [hframe, Option.map_some]
    | opened draws session peerKey peerNonce bootstrap _ htopic =>
      rw [hresponse] at htopic
      cases htopic
    | confirmed draws session bootstrap meshKey _ htopic =>
      rw [hresponse] at htopic
      cases htopic
    | joined draws session bootstrap meshKey keys _ htopic =>
      rw [hresponse] at htopic
      cases htopic
  · cases htopic

/-! ## One key from both ends -/

/-- A device asks at `q`, a hub opens a session for this very request at `s`, the
device answers the response to it at `a`, and both come to one key from the same
key pairs and nonces. -/
structure Agreement (r : Run) (q s a : Nat) (hub peer : NodeId) (asked opened : Session)
    (key : MeshKey) : Prop where
  asks : r.Asks q peer asked
  opens : r.Opens s q hub peer opened key
  answers : ∃ answered, r.Answers a s peer asked answered key ∧
    answered.keyPair = asked.keyPair ∧ answered.nonce = asked.nonce
  since : ∀ t, q < t → t ≤ a → r.own t peer = some asked
  hubDerives : (r.party s hub).deriveBootstrap opened.keyPair asked.keyPair.publicKey asked.nonce
    opened.nonce peer hub = .ok key
  deviceDerives : (r.party a peer).deriveBootstrap asked.keyPair opened.keyPair.publicKey
    asked.nonce opened.nonce peer hub = .ok key

/-- A device and a hub that have one key have it from one exchange. -/
theorem agreement_of_key (hstart : r.Starts provider) (hkeys : r.DerivesIdeally)
    (hopens : r.Opens s q hub peer opened key)
    (hanswers : r.Answers a k peer asked answered key) :
    r.Agreement q s a hub peer asked opened key := by
  -- the hub has heard the request of the device, and the device the response of the hub
  obtain ⟨q', hasks, ⟨_, _, hopens'⟩, ⟨_, _, hanswers'⟩, hsince⟩ :=
    exchange_of_key hstart hkeys hopens hanswers
  obtain rfl : q = q' := Option.some.inj (hopens.heard.symm.trans hopens'.heard)
  obtain rfl : s = k := Option.some.inj (hanswers'.heard.symm.trans hanswers.heard)
  -- so each has derived with what the other has offered
  obtain ⟨⟨⟨peerKey, peerNonce⟩, hheard, hhubDerives⟩, hsaid, hsource⟩ := hopens.derives hstart
  obtain ⟨hub', ⟨hubKey, hubNonce⟩, hsource', hheard', hpeerDerives, hpair, hnonce⟩ :=
    hanswers.derives hstart
  obtain ⟨rfl, rfl⟩ := Prod.mk.inj (Option.some.inj (hheard.symm.trans (hasks.offered hstart)))
  obtain ⟨rfl, rfl⟩ := Prod.mk.inj (Option.some.inj (hheard'.symm.trans hsaid))
  obtain rfl : hub = hub' := Option.some.inj (hsource.symm.trans hsource')
  exact ⟨hasks, hopens, ⟨answered, hanswers, hpair, hnonce⟩, hsince, hhubDerives, hpeerDerives⟩

section

variable {s' a' : Nat} {hub' : NodeId} {asked' opened' : Session} {key' : MeshKey}

/-- Once a device has answered, it does not wait for a response any more. -/
theorem Agreement.not_lt (h : r.Agreement q s a hub peer asked opened key)
    (h' : r.Agreement q s' a' hub' peer asked' opened' key') : ¬a < a' := by
  intro hlt
  obtain ⟨answered, hanswers, _⟩ := h.answers
  have hqs := h.opens.later
  have hsa := hanswers.later
  have hown := h'.since (a + 1) (by omega) (by omega)
  rw [hanswers.has] at hown
  have hstep := h'.asks.step
  rw [← Option.some.inj hown, hanswers.step] at hstep
  cases hstep

theorem Agreement.answer_unique (h : r.Agreement q s a hub peer asked opened key)
    (h' : r.Agreement q s' a' hub' peer asked' opened' key') : a = a' :=
  Nat.le_antisymm (Nat.le_of_not_lt (h'.not_lt h)) (Nat.le_of_not_lt (h.not_lt h'))

end

end Run
end Meshwork
