import Meshwork.Proofs.Handshake.Fields

/-!
# When sessions of a hub change

A session of a hub opens with a request and changes once more, when the opening
of its peer is confirmed. What is queued is the failure of a peer that is left
without a session, or a peer whose success has been opened.
-/

namespace Meshwork
set_option autoImplicit false

/-- What was not so at first and is so now became so at some time, for good. -/
theorem exists_last_change {α : Type} {x : Nat → α} {v : α} {j : Nat} (hzero : x 0 ≠ v)
    (hj : x j = v) : ∃ i, i < j ∧ x i ≠ v ∧ ∀ t, i < t → t ≤ j → x t = v := by
  induction j with
  | zero => exact absurd hj hzero
  | succ j ih =>
    by_cases hprev : x j = v
    · obtain ⟨i, hij, hi, hsince⟩ := ih hprev
      refine ⟨i, Nat.lt_succ_of_lt hij, hi, ?_⟩
      intro t hit htj
      rcases Nat.lt_or_ge j t with hlt | hle
      · rw [show t = j + 1 by omega]
        exact hj
      · exact hsince t hit hle
    · refine ⟨j, Nat.lt_succ_self j, hprev, ?_⟩
      intro t hjt htj
      rw [show t = j + 1 by omega]
      exact hj

namespace Inclusion

variable {c c' : Inclusion} {more : List InclusionEvent}

/-- The results that have been queued since. -/
def queued (c c' : Inclusion) : List InclusionEvent := c'.events.drop c.events.length

theorem queued_of_append (h : c'.events = c.events ++ more) : c.queued c' = more := by
  rw [queued, h, List.drop_left]

theorem not_mem_queued (h : c'.events = c.events) (event : InclusionEvent) :
    event ∉ c.queued c' := by
  rw [queued_of_append (h.trans (List.append_nil _).symm)]
  exact List.not_mem_nil

/-- Sessions have ended and none has changed, and every result that was queued
is the failure of a peer that is left without one. -/
structure Ends (c c' : Inclusion) : Prop where
  session : ∀ peer session, c'.session? peer = some session → c.session? peer = some session
  queued : ∀ event ∈ c.queued c', ∃ peer reason,
    event = .failed peer reason ∧ c'.session? peer = none

theorem Ends.of_events (hsession : c'.sessions = c.sessions) (hevents : c'.events = c.events) :
    Ends c c' := by
  refine ⟨?_, ?_⟩
  · intro peer session h
    unfold session? at h ⊢
    rwa [hsession] at h
  · exact fun event h => absurd h (not_mem_queued hevents event)

theorem ends_drain (c : Inclusion) : Ends c c.drain.2 := by
  refine ⟨fun _ _ h => h, ?_⟩
  rw [queued, show c.drain.2.events = [] from rfl, List.drop_nil]
  exact fun _ h => absurd h List.not_mem_nil

/-- Sessions have failed one after another, and the results are behind those that
were in the queue. -/
structure Fails (c c' : Inclusion) : Prop where
  session : ∀ peer session, c'.session? peer = some session → c.session? peer = some session
  events : ∃ more, c'.events = c.events ++ more ∧ ∀ event ∈ more, ∃ peer reason,
    event = .failed peer reason ∧ c'.session? peer = none

theorem Fails.refl (c : Inclusion) : Fails c c :=
  ⟨fun _ _ h => h, [], (List.append_nil _).symm, fun _ h => absurd h List.not_mem_nil⟩

theorem Fails.ends (h : Fails c c') : Ends c c' := by
  obtain ⟨more, hmore, hfailed⟩ := h.events
  exact ⟨h.session, by rwa [queued_of_append hmore]⟩

/-- Those who have failed before stay without a session when another fails. -/
theorem Fails.failPeer (h : Fails c c') (peer : NodeId) (reason : InclusionError) :
    Fails c (c'.failPeer peer reason) := by
  obtain ⟨more, hmore, hfailed⟩ := h.events
  have hkept : ∀ event ∈ more, ∃ other reason', event = .failed other reason' ∧
      (c'.failPeer peer reason).session? other = none := by
    intro event hevent
    obtain ⟨other, reason', heq, hother⟩ := hfailed event hevent
    refine ⟨other, reason', heq, Option.eq_none_iff_forall_ne_some.mpr ?_⟩
    intro session hsession
    rw [session?_of_failPeer hsession] at hother
    cases hother
  refine ⟨fun other session hr => h.session other session (session?_of_failPeer hr), ?_⟩
  rcases c'.failPeer_events peer reason with hsame | hnew
  · exact ⟨more, hsame.trans hmore, hkept⟩
  · refine ⟨more ++ [.failed peer reason], ?_, ?_⟩
    · rw [hnew, hmore, List.append_assoc]
    · intro event hevent
      rcases List.mem_append.mp hevent with hbefore | hlast
      · exact hkept event hbefore
      · exact ⟨peer, reason, List.mem_singleton.mp hlast, c'.session?_failPeer_self peer reason⟩

theorem ends_failOverduePeers (c : Inclusion) (now : UInt64) : Ends c (c.failOverduePeers now) :=
  (failPeers_induct (P := Fails c) (fun _ peer h => h.failPeer peer .timeout) _
    (Fails.refl c)).ends

/-- Where no handshake of its own is under way only sessions run out of time. -/
theorem ends_checkTimeouts (now : UInt64) (hown : c.own = none) : Ends c (c.checkTimeouts now) := by
  have hrest : (c.failOverduePeers now).own = none :=
    failPeers_induct (P := fun r => r.own = none)
      (fun r peer h => (r.failPeer_own peer .timeout).trans h) _ hown
  have hcheck : c.checkTimeouts now = c.failOverduePeers now := by
    change (c.failOverduePeers now).failOverdueOwn now = _
    unfold failOverdueOwn
    rw [hrest]
  rw [hcheck]
  exact c.ends_failOverduePeers now

end Inclusion

namespace Party

variable {s s' : Party} {p reply : Packet} {now : UInt64} {peer : NodeId} {session : Session}
variable {result : Except InclusionError (Option Packet)}

/-- A hub opens a session for a request. -/
structure Opens (s : Party) (p : Packet) (result : Except InclusionError (Option Packet))
    (new : Session) : Prop where
  topic : p.topic = .includeRequest
  accepting : s.inclusion.accepting = true
  had : s.inclusion.session? p.source = none
  step : new.step = .awaitingOpen
  agreed : ∃ key, new.bootstrap = some key
  response : ∃ reply, result = .ok (some reply) ∧ s.Speaks p.source .includeResponse reply

/-- A hub confirms an opening. -/
structure Confirms (s : Party) (p : Packet) (result : Except InclusionError (Option Packet))
    (old new : Session) (key : MeshKey) : Prop where
  topic : p.topic = .includeOpen
  had : s.inclusion.session? p.source = some old
  waiting : old.step = .awaitingOpen
  step : new.step = .awaitingSuccess
  kept : old.bootstrap = some key ∧ new.bootstrap = some key
  opening : s.keys.provider.unsealText key p.associatedData p.payload = .ok p.source.toBytes
  confirmation : ∃ reply meshKey, result = .ok (some reply) ∧ s.keys.key = some meshKey ∧
    s.Speaks p.source .includeConfirm reply ∧
    Seals s.keys.provider key reply.associatedData meshKey.toBytes reply.payload

/-- A hub takes in the sender of a success. -/
structure Completes (s : Party) (p : Packet) (old : Session) (meshKey : MeshKey) : Prop where
  topic : p.topic = .includeSuccess
  addressed : p.destination = s.inclusion.nodeId
  had : s.inclusion.session? p.source = some old
  waiting : old.step = .awaitingSuccess
  key : s.keys.key = some meshKey
  success : s.keys.provider.unsealText meshKey p.associatedData p.payload = .ok p.source.toBytes

/-- A session of a hub changes when it opens and when it is confirmed. -/
theorem Handled.session_change (h : Handled s p now result s')
    (hnew : s'.inclusion.session? peer = some session)
    (hold : s.inclusion.session? peer ≠ some session) :
    peer = p.source ∧
      (s.Opens p result session ∨ ∃ old key, s.Confirms p result old session key) := by
  cases h with
  | peerFailed e draws old hsession =>
    exact absurd (Inclusion.session?_of_failPeer hnew) hold
  | ownFailed e draws old hown hpeer =>
    exact absurd ((Inclusion.session?_failOwn _ e peer).symm.trans hnew) hold
  | opened draws first peerKey peerNonce key reply htopic hrole haccepting hsession hroom hkey
      hoffer hfirst hderive hspeaks hpayload =>
    by_cases hpeer : peer = p.source
    · rw [hpeer] at hnew
      obtain rfl := Option.some.inj ((Inclusion.session?_putSession_self _ _ _).symm.trans hnew)
      refine ⟨hpeer, Or.inl ⟨htopic, haccepting, hsession, ?_, ⟨key, rfl⟩, reply, rfl, hspeaks⟩⟩
      rw [hfirst]
      rfl
    · exact absurd ((Inclusion.session?_putSession_ne _ _ hpeer).symm.trans hnew) hold
  | confirmed draws old key meshKey reply htopic haddressed hsession hstep hbootstrap hopen hkey
      hspeaks hpayload =>
    by_cases hpeer : peer = p.source
    · rw [hpeer] at hnew
      obtain rfl := Option.some.inj ((Inclusion.session?_putSession_self _ _ _).symm.trans hnew)
      exact ⟨hpeer, Or.inr ⟨old, key, htopic, hsession, hstep, rfl, ⟨hbootstrap, hbootstrap⟩,
        hopen, reply, meshKey, rfl, hkey, hspeaks, hpayload⟩⟩
    · exact absurd ((Inclusion.session?_putSession_ne _ _ hpeer).symm.trans hnew) hold
  | completed old key htopic haddressed hsession =>
    by_cases hpeer : peer = p.source
    · rw [hpeer] at hnew
      cases (Inclusion.session?_takeIn_self _ _).symm.trans hnew
    · exact absurd ((Inclusion.session?_takeIn_ne _ hpeer).symm.trans hnew) hold
  | _ => exact absurd hnew hold

/-- A confirmation answers an opening, and moves the session on. -/
theorem Handled.confirms (h : Handled s p now (.ok (some reply)) s')
    (htopic : reply.topic = .includeConfirm) :
    ∃ old new key, s.Confirms p (.ok (some reply)) old new key ∧
      s'.inclusion.session? p.source = some new := by
  cases h with
  | confirmed draws old key meshKey _ hopening haddressed hsession hstep hbootstrap hopen hkey
      hspeaks hpayload =>
    refine ⟨old, { old with step := .awaitingSuccess, deadline := now + s.inclusion.timeout }, key,
      ?_, Inclusion.session?_putSession_self _ _ _⟩
    exact ⟨hopening, hsession, hstep, rfl, ⟨hbootstrap, hbootstrap⟩, hopen, reply, meshKey, rfl,
      hkey, hspeaks, hpayload⟩
  | opened draws first peerKey peerNonce key _ _ hrole haccepting hsession hroom hkey hoffer
      hfirst hderive hspeaks =>
    rw [hspeaks.topic] at htopic
    cases htopic
  | answered draws old hubKey hubNonce key _ _ haddressed hown hpeer hstep hoffer hderive
      hspeaks =>
    rw [hspeaks.topic] at htopic
    cases htopic
  | joined draws old key meshKey keys _ _ haddressed hown hpeer hstep hbootstrap hopen hinstall
      hresult =>
    rcases hresult with ⟨e, he⟩ | ⟨reply', heq, hspeaks, _⟩
    · cases he
    · cases heq
      rw [hspeaks.topic] at htopic
      cases htopic

/-- A hub queues the failure of the sender, or has opened its success. -/
theorem Handled.queued (h : Handled s p now result s') (hown : s.inclusion.own = none)
    {event : InclusionEvent} (hevent : event ∈ s.inclusion.queued s'.inclusion) :
    (∃ reason, event = .failed p.source reason ∧ s'.inclusion.session? p.source = none) ∨
      event = .included p.source ∧ ∃ old meshKey, s.Completes p old meshKey := by
  cases h with
  | peerFailed e draws old hsession =>
    rcases s.inclusion.failPeer_events p.source e with hsame | hnew
    · exact absurd hevent (Inclusion.not_mem_queued hsame event)
    · left
      have hqueued : s.inclusion.queued (s.inclusion.failPeer p.source e) =
          [.failed p.source e] := Inclusion.queued_of_append hnew
      exact ⟨e, List.mem_singleton.mp (hqueued ▸ hevent),
        s.inclusion.session?_failPeer_self p.source e⟩
  | ownFailed e draws old hsome hpeer =>
    rw [hown] at hsome
    cases hsome
  | completed old meshKey htopic haddressed hsession hstep hkey hopen =>
    right
    have hqueued : s.inclusion.queued (takeIn s.inclusion p.source) = [.included p.source] :=
      Inclusion.queued_of_append rfl
    exact ⟨List.mem_singleton.mp (hqueued ▸ hevent), old, meshKey, htopic, haddressed, hsession,
      hstep, hkey, hopen⟩
  | answered draws old hubKey hubNonce key reply htopic haddressed hsome =>
    rw [hown] at hsome
    cases hsome
  | joined draws old key meshKey keys result htopic haddressed hsome =>
    rw [hown] at hsome
    cases hsome
  | _ => exact absurd hevent (Inclusion.not_mem_queued rfl event)

end Party
end Meshwork
