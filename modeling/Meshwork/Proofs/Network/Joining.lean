import Meshwork.Proofs.Network.Exchanges

/-!
# What a device knows of the hub that takes it in

When a device has installed a key, it is the mesh key of the hub that it names, as
the hub held it when it built the confirmation. And the hub built it in a session
that it had opened for the request which the device was still waiting on.
-/

namespace Meshwork
set_option autoImplicit false

namespace Party

variable {s s' : Party} {p : Packet} {now : UInt64}

/-- A device does not come to sessions with peers. -/
theorem Handled.sessionless {result : Except InclusionError (Option Packet)}
    (h : Handled s p now result s') (hrole : s.inclusion.role = .standard)
    (hnone : ∀ peer, s.inclusion.session? peer = none) (peer : NodeId) :
    s'.inclusion.session? peer = none := by
  cases h with
  | ownFailed e draws session => exact (s.inclusion.session?_failOwn e peer).trans (hnone peer)
  | peerFailed e draws session hsession =>
    rw [hnone p.source] at hsession
    cases hsession
  | opened draws session peerKey peerNonce bootstrap reply htopic hhub =>
    rw [hrole] at hhub
    cases hhub
  | confirmed draws session bootstrap key reply htopic haddressed hsession =>
    rw [hnone p.source] at hsession
    cases hsession
  | completed session key htopic haddressed hsession =>
    rw [hnone p.source] at hsession
    cases hsession
  | _ => exact hnone peer

end Party

namespace Run

variable {r : Run} {provider : CryptoProvider} {c : Nat} {n hub peer : NodeId}

theorem session?_standard (hstart : r.Starts provider)
    (hrole : (r.party 0 n).inclusion.role = .standard) (i : Nat) :
    ∀ other, (r.party i n).inclusion.session? other = none := by
  refine party_induct (P := fun s => ∀ other, s.inclusion.session? other = none) ?_ ?_ i
  · intro other
    exact Option.eq_none_iff_forall_ne_some.mpr fun session => session?_zero hstart
  · intro i hn ih other
    have hstandard : (r.party i n).inclusion.role = .standard :=
      (congrArg Inclusion.Setup.role (setup_party hstart i n)).trans hrole
    rcases step_cases hstart hn with ⟨_, _, _, _, _, _, _, hhandled, _⟩ |
      ⟨_, _, hrequested, _⟩ | ⟨_, _, _, hfades⟩
    · exact hhandled.sessionless hstandard ih other
    · generalize r.party (i + 1) n = after at hrequested
      cases hrequested with
      | _ => exact ih other
    · refine Option.eq_none_iff_forall_ne_some.mpr fun session hsession => ?_
      have hbefore := hfades.session other session hsession
      rw [ih other] at hbefore
      cases hbefore

theorem hub_of_session? {i : Nat} {session : Session} (hstart : r.Starts provider)
    (h : r.session? i n peer = some session) : (r.party 0 n).inclusion.role = .hub := by
  cases hrole : (r.party 0 n).inclusion.role with
  | hub => rfl
  | standard =>
    have hnone := session?_standard hstart hrole i peer
    rw [show (r.party i n).inclusion.session? peer = some session from h] at hnone
    cases hnone

/-- A device comes to be included by a confirmation only. -/
theorem installs_of_included (hstart : r.Starts provider)
    (hrole : (r.party 0 peer).inclusion.role = .standard)
    (h : (r.party (c + 1) peer).inclusion.events =
      (r.party c peer).inclusion.events ++ [.included hub]) :
    r.key? c peer = none ∧
      ∃ i old key meshKey, r.Installs c i peer hub old key meshKey := by
  have hid := nodeId_party hstart c peer
  have hnone := session?_standard hstart hrole c
  by_cases hn : r.node? c = some peer
  · rcases step_cases hstart hn with
      ⟨k, now, p, result, hheard, hlt, hframe, hhandled, _⟩ | ⟨now, result, hrequested, _⟩ |
        ⟨a, _, _, hfades⟩
    · have hinstalled : r.key? (c + 1) peer = (r.party (c + 1) peer).keys.key := rfl
      generalize r.party (c + 1) peer = after at hhandled h hinstalled
      cases hhandled with
      | peerFailed e draws session hsession =>
        rw [hnone p.source] at hsession
        cases hsession
      | ownFailed e draws session hown =>
        change ((r.party c peer).inclusion.failOwn e).events = _ at h
        rw [Inclusion.failOwn_eq e hown] at h
        cases List.append_cancel_left h
      | completed session key htopic haddressed hsession =>
        rw [hnone p.source] at hsession
        cases hsession
      | joined draws session key meshKey keys _ htopic haddressed hown hpeer hstep hbootstrap hopen
          hinstall =>
        obtain ⟨hkeyless, hkeys⟩ := KeyRing.eq_of_install hinstall
        have hsource : [InclusionEvent.included p.source] = [.included hub] :=
          List.append_cancel_left h
        cases hsource
        refine ⟨hkeyless, k, session, key, meshKey, hheard, hlt, hown, hstep, hbootstrap, ?_, p,
          hframe, htopic, rfl, haddressed.trans hid, hopen⟩
        rw [hinstalled, hkeys]
      | _ => exact absurd h Party.ne_append_singleton
    · generalize r.party (c + 1) peer = after at hrequested h
      cases hrequested with
      | _ => exact absurd h Party.ne_append_singleton
    · exact absurd h (hfades.events hub)
  · rw [party_other hn] at h
    exact absurd h Party.ne_append_singleton

/-- When a device is included, the hub that it names has built the confirmation in a
session for the request that the device was waiting on, with the same key pairs
and nonces on both ends, and the device has installed the mesh key that the hub
held then. -/
theorem included_of_agreement (hstart : r.Starts provider) (hseal : SealsIdeally provider)
    (hkeys : r.DerivesIdeally) (hrole : (r.party 0 peer).inclusion.role = .standard)
    (hincluded : (r.party (c + 1) peer).inclusion.events =
      (r.party c peer).inclusion.events ++ [.included hub]) :
    (r.party 0 hub).inclusion.role = .hub ∧ ∃ q s a i asked opened confirmed bootstrap key,
      r.Agreement q s a hub peer asked opened bootstrap ∧
      (∀ t, q < t → t ≤ c → ¬r.Sends t peer .includeRequest ∧
        ∃ own, r.own t peer = some own ∧ own.keyPair = asked.keyPair ∧
          own.nonce = asked.nonce) ∧
      r.Confirms i a hub peer opened confirmed bootstrap ∧
      (∀ t, s < t → t ≤ i → r.session? t hub peer = some opened) ∧
      (r.heard? c = some i ∧ i < c) ∧
      r.key? i hub = some key ∧ r.key? c peer = none ∧ r.key? (c + 1) peer = some key := by
  obtain ⟨hkeyless, i, last, bootstrap, key, hinstalls⟩ :=
    installs_of_included hstart hrole hincluded
  obtain ⟨k, opened, confirmed, hconfirms, hheld, _⟩ :=
    confirms_of_installs hstart hseal hinstalls
  -- the session of the hub and the handshake of the device have one key
  obtain ⟨s, q, key₀, _, hopens, hsession⟩ := opened_since hstart hconfirms.had hconfirms.waiting
  obtain rfl : bootstrap = key₀ := Option.some.inj (hconfirms.kept.1.symm.trans hopens.agreed)
  obtain ⟨a, s', asked, key₁, hac, hanswers, hlast⟩ :=
    answered_since hstart hinstalls.had hinstalls.waiting
  obtain rfl : bootstrap = key₁ := Option.some.inj (hinstalls.agreed.symm.trans hanswers.agreed)
  have hagreement := agreement_of_key hstart hkeys hopens hanswers
  -- the opening that the hub has confirmed is the one that the device has answered with
  obtain ⟨_, _, _, hopener⟩ := answers_of_confirms hstart hseal hconfirms
  obtain rfl : k = a :=
    (agreement_of_key hstart hkeys hopens hopener).answer_unique hagreement
  obtain ⟨answered, hanswered, hpair, hnonce⟩ := hagreement.answers
  obtain rfl : answered = last := Option.some.inj (hanswered.has.symm.trans hanswers.has)
  have hown : ∀ t, q < t → t ≤ c → ∃ own, r.own t peer = some own ∧
      own.keyPair = asked.keyPair ∧ own.nonce = asked.nonce := by
    intro t hqt htc
    rcases Nat.lt_or_ge k t with hlt | hle
    · exact ⟨answered, hlast t hlt htc, hpair, hnonce⟩
    · exact ⟨asked, hagreement.since t hqt hle, rfl, rfl⟩
  refine ⟨hub_of_session? hstart hconfirms.had, q, s, k, i, asked, opened, confirmed, bootstrap,
    key, hagreement, ?_, hconfirms, hsession, ⟨hinstalls.heard, hinstalls.later⟩, hheld, hkeyless,
    hinstalls.installed⟩
  intro t hqt htc
  refine ⟨fun hsends => ?_, hown t hqt htc⟩
  obtain ⟨own, hsome, _⟩ := hown t hqt htc
  rw [idle_of_sends hstart hsends] at hsome
  cases hsome

/-! ## A device that two hubs answer -/

def seeker : NodeId := ⟨2⟩

def nearHub : NodeId := ⟨1⟩

def farHub : NodeId := ⟨3⟩

/-- Draws are told apart by their numbers and by who makes them. -/
def soughtStart : Network where
  party n :=
    { inclusion := .create (if n = seeker then .standard n else .hub n)
      keys := { provider := .transparent }
      draws := { source := fun _ number => [UInt8.ofNat number, UInt8.ofNat n.value.toNat] } }

/-- Both hubs answer one request. The device goes on with one of them and hears the
response of the other too late. -/
def soughtRun : Run where
  start := soughtStart
  moves :=
    [⟨nearHub, .enable⟩, ⟨farHub, .enable⟩, ⟨seeker, .request 0⟩, ⟨farHub, .deliver 2 1⟩,
     ⟨nearHub, .deliver 2 1⟩, ⟨seeker, .deliver 4 2⟩, ⟨seeker, .deliver 3 3⟩,
     ⟨nearHub, .deliver 5 4⟩, ⟨seeker, .deliver 7 5⟩]

theorem soughtRun_starts : soughtRun.Starts .transparent where
  air := rfl
  setup n := by
    change (if n = seeker then Config.standard n else Config.hub n).nodeId = n
    split <;> rfl
  own _ := rfl
  sessions _ := rfl
  provider _ := rfl

theorem soughtRun_derivesIdeally : soughtRun.DerivesIdeally :=
  derivesIdeally_of_pairs (by decide +kernel)

theorem included_of_agreement_sought :
    (soughtRun.party 0 nearHub).inclusion.role = .hub ∧
      ∃ q s a i asked opened confirmed bootstrap key,
        soughtRun.Agreement q s a nearHub seeker asked opened bootstrap ∧
        (∀ t, q < t → t ≤ 8 → ¬soughtRun.Sends t seeker .includeRequest ∧
          ∃ own, soughtRun.own t seeker = some own ∧ own.keyPair = asked.keyPair ∧
            own.nonce = asked.nonce) ∧
        soughtRun.Confirms i a nearHub seeker opened confirmed bootstrap ∧
        (∀ t, s < t → t ≤ i → soughtRun.session? t nearHub seeker = some opened) ∧
        (soughtRun.heard? 8 = some i ∧ i < 8) ∧
        soughtRun.key? i nearHub = some key ∧ soughtRun.key? 8 seeker = none ∧
        soughtRun.key? 9 seeker = some key :=
  included_of_agreement soughtRun_starts CryptoProvider.transparent_sealsIdeally
    soughtRun_derivesIdeally rfl (by decide +kernel)

end Run
end Meshwork
