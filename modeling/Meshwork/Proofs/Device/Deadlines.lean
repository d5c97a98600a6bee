import Mathlib.Data.List.Nodup
import Meshwork.Proofs.Device.Reachable
import Meshwork.Proofs.Handshake.Completion
import Meshwork.Proofs.Handshake.Refusals
import Meshwork.Proofs.Handshake.Undated

/-!
# What deadlines bind

The deadline of a handshake is noted by the messages that move it and looked at only
when a party checks its timeouts. A handshake that is late and has not been checked
still goes on with the message that it waits for. One that has been checked is over:
nothing moves it, ends it well or gives a key away for it until a new one is started.
A poll checks before it handles its frame, so that it never meets a late handshake.
-/

namespace Meshwork
set_option autoImplicit false

namespace Inclusion

variable {c : Inclusion} {peer : NodeId} {session : Session} {now : UInt64}

/-! ## What is left by a check -/

theorem session?_eq_none {c' : Inclusion}
    (h : ∀ session, c'.session? peer = some session → c.session? peer = some session)
    (hnone : c.session? peer = none) : c'.session? peer = none := by
  refine Option.eq_none_iff_forall_ne_some.mpr fun session hsession => ?_
  rw [h session hsession] at hnone
  cases hnone

theorem session?_failPeers {peers : List NodeId} (h : peer ∈ peers) (reason : InclusionError) :
    (peers.foldl (fun c peer => c.failPeer peer reason) c).session? peer = none := by
  induction peers generalizing c with
  | nil => cases h
  | cons first peers ih =>
    rcases List.mem_cons.mp h with rfl | hrest
    · exact failPeers_induct (P := fun r => r.session? peer = none)
        (fun r other => session?_eq_none fun _ => session?_of_failPeer) peers
        (c.session?_failPeer_self peer reason)
    · exact ih hrest

/-- A session that is left was there before, and is not late. -/
theorem session_left (h : (c.checkTimeouts now).session? peer = some session) :
    c.session? peer = some session ∧ now < session.deadline := by
  have hpeers : (c.failOverduePeers now).session? peer = some session := by
    have hsessions := ((c.failOverduePeers now).failOverdueOwn_fields now).2.1
    unfold session? at h ⊢
    rw [← hsessions]
    exact h
  have hbefore := (c.ends_failOverduePeers now).session peer session hpeers
  refine ⟨hbefore, Nat.lt_of_not_le fun hlate => ?_⟩
  have hdue : peer ∈ c.overduePeers now :=
    mem_overduePeers.mpr ⟨session, Association.mem_of_lookup hbefore, decide_eq_true hlate⟩
  rw [failOverduePeers, session?_failPeers hdue] at hpeers
  cases hpeers

theorem session?_checkTimeouts_of_late (h : c.session? peer = some session)
    (hlate : session.deadline ≤ now) : (c.checkTimeouts now).session? peer = none := by
  refine Option.eq_none_iff_forall_ne_some.mpr fun left hleft => ?_
  obtain ⟨hbefore, htimely⟩ := session_left hleft
  rw [h] at hbefore
  cases hbefore
  exact Nat.not_le.mpr htimely hlate

theorem own_left (h : (c.checkTimeouts now).own = some session) :
    c.own = some session ∧ now < session.deadline := by
  have hpeers : (c.failOverduePeers now).own = c.own :=
    failPeers_induct (P := fun r => r.own = c.own)
      (fun r peer h => (r.failPeer_own peer .timeout).trans h) _ rfl
  have hown := ((c.failOverduePeers now).failOverdueOwn_fields now).2.2.1
  rw [show c.checkTimeouts now = (c.failOverduePeers now).failOverdueOwn now from rfl, hown,
    hpeers] at h
  obtain ⟨hbefore, hdue⟩ := Option.filter_eq_some_iff.mp h
  rw [not_isOverdue] at hdue
  exact ⟨hbefore, of_decide_eq_true hdue⟩

/-- No handshake is late. -/
structure Timely (now : UInt64) (c : Inclusion) : Prop where
  session : ∀ peer session, c.session? peer = some session → now < session.deadline
  own : ∀ session, c.own = some session → now < session.deadline

theorem timely_checkTimeouts (c : Inclusion) (now : UInt64) : Timely now (c.checkTimeouts now) :=
  ⟨fun _ _ h => (session_left h).2, fun _ h => (own_left h).2⟩

theorem queued_checkTimeouts (hc : c.Shaped) (now : UInt64) :
    c.queued (c.checkTimeouts now) = (c.overduePeers now).map (.failed · .timeout) ++
      (c.own.filter (isOverdue now)).toList.map (.failed ·.peer .timeout) :=
  queued_of_append (checkTimeouts_fields hc.distinct now).2.2.2

/-- A check tells of a late session once. -/
theorem count_queued_checkTimeouts (hc : c.Shaped) (h : c.session? peer = some session)
    (hlate : session.deadline ≤ now) :
    (c.queued (c.checkTimeouts now)).count (.failed peer .timeout) = 1 := by
  have hdue : peer ∈ c.overduePeers now :=
    mem_overduePeers.mpr ⟨session, Association.mem_of_lookup h, decide_eq_true hlate⟩
  have hdistinct : (c.overduePeers now).Nodup := Association.nodup_keys_filter hc.distinct _
  rw [queued_checkTimeouts hc, hc.hub (hc.role_of_session h)]
  simp only [Option.filter_none, Option.toList_none, List.map_nil, List.append_nil]
  have honce := hdistinct.map (f := fun other => InclusionEvent.failed other .timeout)
    fun _ _ hsame => (InclusionEvent.failed.inj hsame).1
  exact List.count_eq_one_of_mem honce (List.mem_map_of_mem hdue)

/-- A check ends a late handshake of the device itself, and tells of nothing else. -/
theorem own_checkTimeouts (hc : c.Shaped) (h : c.own = some session)
    (hlate : session.deadline ≤ now) :
    (c.checkTimeouts now).own = none ∧ (c.checkTimeouts now).state = .notIncluded ∧
      c.queued (c.checkTimeouts now) = [.failed session.peer .timeout] := by
  have hdue : isOverdue now session = true := decide_eq_true hlate
  have hsessions : c.sessions = [] := hc.standard (hc.role_of_own h)
  have hnobody : c.overduePeers now = [] := by
    rw [overduePeers, hsessions]
    rfl
  have hcheck : c.checkTimeouts now = c.failOwn .timeout := by
    rw [checkTimeouts, hnobody, List.foldl_nil, failOverdueOwn, h]
    exact if_pos hdue
  rw [hcheck, failOwn_eq .timeout h]
  exact ⟨rfl, rfl, queued_of_append rfl⟩

end Inclusion

namespace Party

variable {s s' : Party} {p : Packet} {now : UInt64} {peer : NodeId} {config : Config}

/-! ## What would further a handshake -/

/-- A packet furthers a handshake with these peers: it moves it to its next step, ends
it with one of them taken in, or has a key installed or given away for it. -/
inductive Furthers (handshake : Inclusion → Option Session) (With : NodeId → Prop) (s : Party)
    (p : Packet) (now : UInt64) : Prop where
  | moved (old new : Session) (hold : handshake s.inclusion = some old)
      (hnew : handshake (s.handle p now).2.inclusion = some new) (hstep : new.step ≠ old.step)
  | completed (peer : NodeId) (hpeer : With peer)
      (hqueued : .included peer ∈ s.inclusion.queued (s.handle p now).2.inclusion)
  | installed (hkey : (s.handle p now).2.keys.key ≠ s.keys.key)
  | released (reply : Packet) (hreply : (s.handle p now).1 = .ok (some reply))
      (hpeer : With reply.destination) (htopic : reply.topic = .includeConfirm)

theorem exists_session_of_undated {handshake : Inclusion → Option Session}
    (hundated : ∀ c, handshake c.undated = (handshake c).map Session.undated) {c c' : Inclusion}
    (hsame : c.undated = c'.undated) {session : Session} (h : handshake c = some session) :
    ∃ session', handshake c' = some session' ∧ session'.step = session.step := by
  have hcommutes := hundated c
  rw [hsame, hundated c', h] at hcommutes
  obtain ⟨session', hsession', halike⟩ := Option.map_eq_some_iff.mp hcommutes
  exact ⟨session', hsession', (congrArg Session.step halike :)⟩

/-- What furthers a handshake in time does so late, and whatever its deadline is. -/
theorem Furthers.at_any_time {handshake : Inclusion → Option Session} {With : NodeId → Prop}
    (hundated : ∀ c, handshake c.undated = (handshake c).map Session.undated)
    (h : Furthers handshake With s p now) (hsame : s.undated = s'.undated) (now' : UInt64) :
    Furthers handshake With s' p now' := by
  obtain ⟨hanswer, hrest⟩ := handle_undated hsame p now now'
  have hbefore := congrArg Party.inclusion hsame
  have hafter := congrArg Party.inclusion hrest
  have hevents : s.inclusion.events = s'.inclusion.events :=
    (congrArg Inclusion.events hbefore :)
  have hqueue : (s.handle p now).2.inclusion.events = (s'.handle p now').2.inclusion.events :=
    (congrArg Inclusion.events hafter :)
  have hring : s.keys = s'.keys := (congrArg Party.keys hsame :)
  have hringAfter : (s.handle p now).2.keys = (s'.handle p now').2.keys :=
    (congrArg Party.keys hrest :)
  cases h with
  | moved old new hold hnew hstep =>
    obtain ⟨old', hold', holdStep⟩ := exists_session_of_undated hundated hbefore hold
    obtain ⟨new', hnew', hnewStep⟩ := exists_session_of_undated hundated hafter hnew
    refine .moved old' new' hold' hnew' ?_
    rw [holdStep, hnewStep]
    exact hstep
  | completed peer hpeer hqueued =>
    refine .completed peer hpeer ?_
    rw [Inclusion.queued, ← hevents, ← hqueue]
    exact hqueued
  | installed hkey =>
    refine .installed ?_
    rw [← hring, ← hringAfter]
    exact hkey
  | released reply hreply hpeer htopic =>
    exact .released reply (hanswer.symm.trans hreply) hpeer htopic

/-- A packet furthers the session of a hub with this peer. -/
def FurthersPeer (peer : NodeId) : Party → Packet → UInt64 → Prop :=
  Furthers (Inclusion.session? · peer) (· = peer)

/-- A packet furthers the handshake of the party itself, whichever hub it is with. -/
def FurthersOwn : Party → Packet → UInt64 → Prop := Furthers Inclusion.own fun _ => True

/-- Deadlines do not bind what nobody has checked: a packet that furthers a handshake
does so at any time, and whatever the deadlines are. -/
theorem furthers_at_any_time (hsame : s.undated = s'.undated) (p : Packet) (now now' : UInt64) :
    (∀ peer, FurthersPeer peer s p now ↔ FurthersPeer peer s' p now') ∧
      (FurthersOwn s p now ↔ FurthersOwn s' p now') := by
  refine ⟨fun peer => ⟨fun h => ?_, fun h => ?_⟩, fun h => ?_, fun h => ?_⟩
  · exact h.at_any_time (Inclusion.session?_undated · peer) hsame now'
  · exact h.at_any_time (Inclusion.session?_undated · peer) hsame.symm now
  · exact h.at_any_time Inclusion.undated_own hsame now'
  · exact h.at_any_time Inclusion.undated_own hsame.symm now

/-- Where there is no handshake, none is furthered. -/
theorem not_furthers {handshake : Inclusion → Option Session} {With : NodeId → Prop}
    (hnone : handshake s.inclusion = none) (hown : s.inclusion.own = none)
    (hvacant : ∀ peer, With peer → s.inclusion.session? peer = none) (p : Packet) (now : UInt64) :
    ¬Furthers handshake With s p now := by
  have hhandled := s.handled p now
  intro hfurthers
  cases hfurthers with
  | moved old new hold =>
    rw [hnone] at hold
    cases hold
  | completed peer hpeer hqueued =>
    rcases hhandled.queued hown hqueued with ⟨reason, hfailed, _⟩ | ⟨hincluded, old, key, h⟩
    · cases hfailed
    · cases hincluded
      have had := h.had
      rw [hvacant _ hpeer] at had
      cases had
  | installed hkey => exact hkey (congrArg KeyRing.key (hhandled.keys_of_own_none hown))
  | released reply hreply hpeer htopic =>
    rw [hreply] at hhandled
    obtain ⟨old, new, key, hconfirms, _⟩ := hhandled.confirms htopic
    obtain ⟨reply', meshKey, hsame, _, hspeaks, _⟩ := hconfirms.confirmation
    cases hsame
    have had := hconfirms.had
    rw [← hspeaks.destination, hvacant _ hpeer] at had
    cases had

/-! ## After a check -/

/-- All that can be done with a party. -/
inductive Move where
  | turn (taken : Turn)
  | reset
  | restore (state : Membership)

def Move.perform (s : Party) : Move → Party
  | .turn taken => taken.perform s
  | .reset => { s with inclusion := s.inclusion.reset }
  | .restore state => { s with inclusion := s.inclusion.restore state }

theorem Reachable.move (h : Reachable config s) (move : Move) :
    Reachable config (move.perform s) := by
  cases move with
  | turn taken => exact h.turn taken
  | reset => exact h.reset
  | restore state => exact h.restore state

/-- A hub accepts a request of this peer. -/
def Admits (peer : NodeId) (s : Party) (move : Move) : Prop :=
  ∃ p now session, move = .turn (.call (.handle p now)) ∧ p.source = peer ∧
    s.Opens p (s.handle p now).1 session

/-- A device starts a handshake of its own. -/
def Asks (s : Party) (move : Move) : Prop :=
  ∃ now request, move = .turn (.request now) ∧ (s.request now).1 = .ok request

/-- What can become of a party without any move of this kind. -/
inductive Without (Barred : Party → Move → Prop) (s : Party) : Party → Prop where
  | refl : Without Barred s s
  | move {s' : Party} (move : Move) :
      Without Barred s s' → ¬Barred s' move → Without Barred s (move.perform s')

theorem Reachable.without {Barred : Party → Move → Prop} (h : Reachable config s)
    (hrun : Without Barred s s') : Reachable config s' := by
  induction hrun with
  | refl => exact h
  | move move _ _ ih => exact ih.move move

theorem Requested.sessions {result : Except MeshError Packet} (h : Requested s now result s') :
    s'.inclusion.sessions = s.inclusion.sessions := by
  cases h with
  | _ => rfl

/-- Nothing but a request that is accepted gives a peer a session. -/
theorem vacant_move {move : Move} (hnone : s.inclusion.session? peer = none)
    (hmove : ¬Admits peer s move) : (move.perform s).inclusion.session? peer = none := by
  have hsame : ∀ c : Inclusion, c.sessions = s.inclusion.sessions → c.session? peer = none := by
    intro c hsessions
    unfold Inclusion.session? at hnone ⊢
    rw [hsessions, hnone]
  cases move with
  | turn taken =>
    cases taken with
    | call call =>
      cases call with
      | handle p now =>
        refine Option.eq_none_iff_forall_ne_some.mpr fun session hsession => ?_
        have hold : s.inclusion.session? peer ≠ some session := by
          rw [hnone]
          exact nofun
        -- a session that was not there has been opened; confirming one needs it
        obtain ⟨hpeer, hopens | ⟨old, key, hconfirms⟩⟩ :=
          (s.handled p now).session_change hsession hold
        · exact hmove ⟨p, now, session, rfl, hpeer.symm, hopens⟩
        · have had := hconfirms.had
          rw [← hpeer, hnone] at had
          cases had
      | expire now =>
        exact Inclusion.session?_eq_none (fun _ h => (Inclusion.session_left h).1) hnone
      | enable =>
        obtain ⟨accepting, henable⟩ := s.inclusion_enable
        refine hsame _ ?_
        rw [show (Move.perform s (.turn (.call .enable))).inclusion = _ from henable]
      | _ => exact hsame _ rfl
    | request now => exact hsame _ (s.requested now).sessions
  | reset => exact hsame _ rfl
  | restore state =>
    obtain ⟨state', hrestore⟩ := Device.restore_cases s.inclusion state
    refine hsame _ ?_
    rw [show (Move.perform s (.restore state)).inclusion = _ from hrestore]

theorem vacant_without (hnone : s.inclusion.session? peer = none)
    (hrun : Without (Admits peer) s s') : s'.inclusion.session? peer = none := by
  induction hrun with
  | refl => exact hnone
  | move move _ hmove ih => exact vacant_move ih hmove

/-- Nothing but asking gives a party a handshake of its own. -/
theorem idle_move {move : Move} (hnone : s.inclusion.own = none) (hmove : ¬Asks s move) :
    (move.perform s).inclusion.own = none := by
  cases move with
  | turn taken =>
    cases taken with
    | call call =>
      cases call with
      | handle p now => exact (s.handled p now).own_none hnone
      | expire now =>
        refine Option.eq_none_iff_forall_ne_some.mpr fun session hsession => ?_
        rw [(Inclusion.own_left hsession).1] at hnone
        cases hnone
      | enable =>
        obtain ⟨accepting, henable⟩ := s.inclusion_enable
        rw [show (Move.perform s (.turn (.call .enable))).inclusion = _ from henable]
        exact hnone
      | _ => exact hnone
    | request now =>
      have hrequested := s.requested now
      change (s.request now).2.inclusion.own = none
      cases hresult : (s.request now).1 with
      | ok request => exact absurd ⟨now, request, rfl, hresult⟩ hmove
      | error e =>
        rw [hresult] at hrequested
        generalize (s.request now).2 = after at hrequested ⊢
        cases hrequested with
        | refused e draws => exact hnone
  | reset => rfl
  | restore state =>
    obtain ⟨state', hrestore⟩ := Device.restore_cases s.inclusion state
    rw [show (Move.perform s (.restore state)).inclusion = _ from hrestore]
    exact hnone

theorem idle_without (hnone : s.inclusion.own = none) (hrun : Without Asks s s') :
    s'.inclusion.own = none := by
  induction hrun with
  | refl => exact hnone
  | move move _ hmove ih => exact idle_move ih hmove

/-! ## Deadlines bind what has been checked -/

theorem bound_peer (hs : Reachable config s) {session : Session}
    (hsession : s.inclusion.session? peer = some session) {checked : UInt64}
    (hlate : session.deadline ≤ checked) {s' : Party}
    (hrun : Without (Admits peer) ((Call.expire checked).perform s) s') (p : Packet)
    (now : UInt64) : ¬FurthersPeer peer s' p now := by
  have hswept := Inclusion.session?_checkTimeouts_of_late hsession hlate
  have hafter : Reachable config s' := (hs.turn (.call (.expire checked))).without hrun
  have hhub : s'.inclusion.role = .hub :=
    hafter.role.trans (hs.role.symm.trans (hs.shaped.role_of_session hsession))
  have hnone : s'.inclusion.session? peer = none := vacant_without hswept hrun
  refine not_furthers hnone (hafter.shaped.hub hhub) (fun other hother => ?_) p now
  obtain rfl : other = peer := hother
  exact hnone

theorem bound_own (hs : Reachable config s) {session : Session}
    (hown : s.inclusion.own = some session) {checked : UInt64} (hlate : session.deadline ≤ checked)
    {s' : Party} (hrun : Without Asks ((Call.expire checked).perform s) s') (p : Packet)
    (now : UInt64) : ¬FurthersOwn s' p now := by
  have hswept := (Inclusion.own_checkTimeouts hs.shaped hown hlate).1
  have hafter : Reachable config s' := (hs.turn (.call (.expire checked))).without hrun
  have hstandard : s'.inclusion.role = .standard :=
    hafter.role.trans (hs.role.symm.trans (hs.shaped.role_of_own hown))
  have hnone : s'.inclusion.own = none := idle_without hswept hrun
  refine not_furthers hnone hnone (fun other _ => ?_) p now
  unfold Inclusion.session?
  rw [hafter.shaped.standard hstandard]
  rfl

end Party

namespace Device

/-- The frame of a poll meets no late handshake. -/
theorem timely_poll (d : Device) (now : UInt64) (draws : Draws) :
    d.hearing (.poll now) = none ∨
      ∃ m frame, d.hearing (.poll now) = some (m, frame, now) ∧ m.inclusion.Timely now ∧
        (d.poll now draws).2.1 = (m.processFrame frame now draws).2.1 := by
  rcases d.poll_cases now draws with ⟨hnothing, _⟩ | ⟨m, frame, hheard, hwoken, hafter⟩
  · exact Or.inl hnothing
  · have htimely := d.inclusion.timely_checkTimeouts now
    refine Or.inr ⟨m, frame, hheard, ?_, hafter⟩
    rw [hwoken.inclusion]
    exact ⟨htimely.session, htimely.own⟩

end Device

namespace Party

variable {s : Party} {config : Config}

/-- Whatever has happened to a party before: a check at or past the deadline of a
handshake ends it with one failure for its time. From then on, and until a request of
the peer is accepted or the device asks again, no packet at any time moves it, ends it
well, or has a key installed or given away for it. A poll checks before its frame is
handled, and so meets no handshake that is late. -/
theorem deadlines_bind_once_checked (hs : Reachable config s) (checked : UInt64) :
    let swept := (Call.expire checked).perform s
    (∀ peer session, s.inclusion.session? peer = some session → session.deadline ≤ checked →
        swept.inclusion.session? peer = none ∧
          (s.inclusion.queued swept.inclusion).count (.failed peer .timeout) = 1 ∧
          ∀ s', Without (Admits peer) swept s' → ∀ p now, ¬FurthersPeer peer s' p now) ∧
      (∀ session, s.inclusion.own = some session → session.deadline ≤ checked →
        swept.inclusion.own = none ∧ swept.inclusion.state = .notIncluded ∧
          s.inclusion.queued swept.inclusion = [.failed session.peer .timeout] ∧
          ∀ s', Without Asks swept s' → ∀ p now, ¬FurthersOwn s' p now) ∧
      ∀ (d : Device) now draws, d.hearing (.poll now) = none ∨
        ∃ m frame, d.hearing (.poll now) = some (m, frame, now) ∧ m.inclusion.Timely now ∧
          (d.poll now draws).2.1 = (m.processFrame frame now draws).2.1 := by
  intro swept
  refine ⟨?_, ?_, Device.timely_poll⟩
  · intro peer session hsession hlate
    exact ⟨Inclusion.session?_checkTimeouts_of_late hsession hlate,
      Inclusion.count_queued_checkTimeouts hs.shaped hsession hlate,
      fun s' hrun => bound_peer hs hsession hlate hrun⟩
  · intro session hown hlate
    obtain ⟨hnone, hstate, hqueued⟩ := Inclusion.own_checkTimeouts hs.shaped hown hlate
    exact ⟨hnone, hstate, hqueued, fun s' hrun => bound_own hs hown hlate hrun⟩

/-- What a device waits with for its confirmation, until 60001. -/
def lateTurns : List Turn := [.request 0, .call (.handle mutedOffer 1)]

def lateParty : Party :=
  lateTurns.foldl Turn.perform
    (.start mutedConfig { provider := .transparent } { source := fun _ _ => [] })

theorem lateParty_reachable : Reachable mutedConfig lateParty :=
  (Reachable.start _ _).turns lateTurns

def checkedParty : Party := (Call.expire 60001).perform lateParty

def checkedHub : Party := (Call.expire 60000).perform busyHub

/-- A device and a hub that check just in time. -/
theorem deadlines_bind_once_checked_late :
    (checkedParty.inclusion.own = none ∧
      lateParty.inclusion.queued checkedParty.inclusion = [.failed ⟨1⟩ .timeout] ∧
      ¬FurthersOwn checkedParty mutedConfirmation 60001) ∧
      checkedHub.inclusion.session? ⟨3⟩ = none ∧
      (busyHub.inclusion.queued checkedHub.inclusion).count (.failed ⟨3⟩ .timeout) = 1 ∧
      ∀ p, ¬FurthersPeer ⟨3⟩ checkedHub p 60000 := by
  obtain ⟨_, hown, _⟩ := deadlines_bind_once_checked lateParty_reachable 60001
  obtain ⟨hpeer, _⟩ := deadlines_bind_once_checked busyHub_reachable 60000
  obtain ⟨own, hsome, hpast, hhub⟩ : ∃ own, lateParty.inclusion.own = some own ∧
      own.deadline ≤ 60001 ∧ own.peer = ⟨1⟩ := ⟨_, rfl, by decide +kernel, rfl⟩
  obtain ⟨session, hsession, hover⟩ : ∃ session,
      busyHub.inclusion.session? ⟨3⟩ = some session ∧ session.deadline ≤ 60000 :=
    ⟨_, rfl, by decide +kernel⟩
  obtain ⟨hnone, _, hqueued, hbound⟩ := hown own hsome hpast
  obtain ⟨hgone, honce, hpeerBound⟩ := hpeer ⟨3⟩ session hsession hover
  rw [hhub] at hqueued
  exact ⟨⟨hnone, hqueued, hbound _ .refl mutedConfirmation 60001⟩, hgone, honce,
    fun p => hpeerBound _ .refl p 60000⟩

/-- The same confirmation at the same time is good enough for a device that has not
checked. -/
theorem late_confirmation_accepted :
    ¬∀ (config : Config) (s : Party) (p : Packet) (now : UInt64), Reachable config s →
      (∀ peer session, s.inclusion.session? peer = some session → session.deadline ≤ now →
        ¬FurthersPeer peer s p now) ∧
      ∀ session, s.inclusion.own = some session → session.deadline ≤ now →
        ¬FurthersOwn s p now := by
  intro hbinds
  obtain ⟨_, hown⟩ := hbinds mutedConfig lateParty mutedConfirmation 60001 lateParty_reachable
  obtain ⟨own, hsome, hpast⟩ : ∃ own, lateParty.inclusion.own = some own ∧
      own.deadline ≤ 60001 := ⟨_, rfl, by decide +kernel⟩
  have htimely : FurthersOwn lateParty mutedConfirmation 2 := .installed (by decide +kernel)
  -- what installs the key in time does so late
  obtain ⟨_, hlate⟩ := furthers_at_any_time (s := lateParty) rfl mutedConfirmation 2 60001
  exact hown own hsome hpast (hlate.mp htimely)

end Party
end Meshwork
