import Meshwork.Proofs.Handshake.History

/-!
# The shape of a party

Whatever a party is asked and whatever packets it hears, a hub has no handshake of
its own, a device has none with a peer, and no peer has two. For such a party it
can be said exactly which handshakes the deadlines end.
-/

namespace Meshwork
set_option autoImplicit false
open Association

namespace Inclusion

/-- Handshakes are where the role of a party puts them, and each session is filed
under its own peer. -/
structure Shaped (c : Inclusion) : Prop where
  distinct : (keys c.sessions).Nodup
  filed : ∀ e ∈ c.sessions, e.2.peer = e.1
  hub : c.role = .hub → c.own = none
  standard : c.role = .standard → c.sessions = []

variable {c c' : Inclusion} {peer : NodeId} {session : Session} {now : UInt64}

theorem shaped_create (config : Config) : (create config).Shaped :=
  ⟨List.nodup_nil, fun _ h => absurd h List.not_mem_nil, fun _ => rfl, fun _ => rfl⟩

theorem failPeer_eq (reason : InclusionError) (h : c.session? peer = some session) :
    c.failPeer peer reason =
      { c with sessions := eraseSession peer c.sessions }.queue (.failed peer reason) := by
  unfold failPeer
  rw [if_pos]
  rw [hasSession, h]
  rfl

theorem length_eraseSession (hc : (keys c.sessions).Nodup) (h : c.session? peer = some session) :
    (eraseSession peer c.sessions).length + 1 = c.sessions.length :=
  length_filter_of_lookup hc h

theorem eraseSession_of_none (h : c.session? peer = none) :
    eraseSession peer c.sessions = c.sessions := by
  refine List.filter_eq_self.mpr ?_
  intro e he
  have hne : peer ≠ e.1 := by simpa using List.lookup_eq_none_iff.mp h e he
  simpa using hne.symm

namespace Shaped

/-- Handshakes may end, and nothing is said of the rest. -/
theorem narrow (h : c.Shaped) (hrole : c'.role = c.role)
    (hown : c'.own = none ∨ c'.own = c.own) (hsessions : c'.sessions.Sublist c.sessions) :
    c'.Shaped where
  distinct := h.distinct.sublist (hsessions.map Prod.fst)
  filed e he := h.filed e (hsessions.subset he)
  hub hhub := by
    rcases hown with hnone | hsame
    · exact hnone
    · rw [hsame]
      exact h.hub (hrole.symm.trans hhub)
  standard hstandard := by
    rw [h.standard (hrole.symm.trans hstandard)] at hsessions
    exact List.sublist_nil.mp hsessions

theorem role_of_session (h : c.Shaped) (hsession : c.session? peer = some session) :
    c.role = .hub := by
  cases hrole : c.role with
  | hub => rfl
  | standard =>
    unfold session? at hsession
    rw [h.standard hrole] at hsession
    cases hsession

theorem role_of_own (h : c.Shaped) (hown : c.own = some session) : c.role = .standard := by
  cases hrole : c.role with
  | standard => rfl
  | hub =>
    rw [h.hub hrole] at hown
    cases hown

theorem peer_of_session (h : c.Shaped) (hsession : c.session? peer = some session) :
    session.peer = peer :=
  h.filed _ (mem_of_lookup hsession)

theorem putSession (h : c.Shaped) (hrole : c.role = .hub) (hpeer : session.peer = peer) :
    (c.putSession peer session).Shaped where
  distinct := by
    unfold Inclusion.putSession keys
    rw [List.map_append, List.nodup_append]
    refine ⟨nodup_keys_filter h.distinct _, List.pairwise_singleton _ peer, ?_⟩
    rintro other hother _ hpeer rfl
    rw [List.mem_singleton.mp hpeer] at hother
    exact not_mem_keys_filter peer c.sessions hother
  filed e he := by
    rcases List.mem_append.mp he with hold | hnew
    · exact h.filed e (List.mem_filter.mp hold).1
    · rw [List.mem_singleton.mp hnew]
      exact hpeer
  hub := h.hub
  standard hstandard := by
    rw [show c.role = .standard from hstandard] at hrole
    cases hrole

theorem setOwn (h : c.Shaped) (hrole : c.role = .standard) (session : Session) :
    { c with own := some session }.Shaped where
  distinct := h.distinct
  filed := h.filed
  hub hhub := by
    rw [show c.role = .hub from hhub] at hrole
    cases hrole
  standard := h.standard

theorem failPeer (h : c.Shaped) (reason : InclusionError)
    (hsession : c.session? peer = some session) : (c.failPeer peer reason).Shaped := by
  rw [failPeer_eq reason hsession]
  exact h.narrow rfl (Or.inr rfl) List.filter_sublist

theorem failOwn (h : c.Shaped) (reason : InclusionError) : (c.failOwn reason).Shaped := by
  unfold Inclusion.failOwn
  split
  · exact h.narrow rfl (Or.inl rfl) (List.Sublist.refl _)
  · exact h

end Shaped

/-! ## What the deadlines end -/

theorem not_isOverdue (now : UInt64) (session : Session) :
    (!isOverdue now session) = decide (now < session.deadline) := by
  rw [isOverdue, ← decide_not]
  exact decide_eq_decide.mpr Nat.not_le

theorem failPeers_eq {peers : List NodeId} (hpeers : peers.Nodup)
    (h : ∀ peer ∈ peers, c.hasSession peer = true) (reason : InclusionError) :
    peers.foldl (fun c peer => c.failPeer peer reason) c =
      { c with
        sessions := c.sessions.filter fun e => e.1 ∉ peers
        events := c.events ++ peers.map (.failed · reason) } := by
  induction peers generalizing c with
  | nil =>
    have hall : c.sessions.filter (fun e => e.1 ∉ ([] : List NodeId)) = c.sessions :=
      List.filter_eq_self.mpr fun e _ => decide_eq_true List.not_mem_nil
    rw [hall, List.map_nil, List.append_nil]
    rfl
  | cons peer peers ih =>
    obtain ⟨hnew, hpeers⟩ := List.nodup_cons.mp hpeers
    rw [List.foldl_cons, Inclusion.failPeer, if_pos (h peer List.mem_cons_self)]
    rw [ih hpeers]
    · simp only [queue, eraseSession, List.filter_filter, List.map_cons, List.append_assoc,
        List.singleton_append]
      congr 2
      funext e
      by_cases he : e.1 = peer
      · simp [he]
      · simp [he, bne, beq_false_of_ne he]
    · intro other hother
      have hne : other ≠ peer := fun heq => hnew (heq ▸ hother)
      unfold hasSession session? queue eraseSession
      rw [lookup_filter_ne hne]
      exact h other (List.mem_cons_of_mem _ hother)

theorem mem_overduePeers :
    peer ∈ c.overduePeers now ↔ ∃ session, (peer, session) ∈ c.sessions ∧
      isOverdue now session = true := by
  unfold overduePeers
  rw [List.mem_map]
  constructor
  · rintro ⟨⟨other, session⟩, he, rfl⟩
    exact ⟨session, List.mem_filter.mp he⟩
  · rintro ⟨session, hsession, hdue⟩
    exact ⟨(peer, session), List.mem_filter.mpr ⟨hsession, hdue⟩, rfl⟩

theorem failOverduePeers_eq (h : (keys c.sessions).Nodup) (now : UInt64) :
    c.failOverduePeers now =
      { c with
        sessions := c.sessions.filter fun e => !isOverdue now e.2
        events := c.events ++ (c.overduePeers now).map (.failed · .timeout) } := by
  have hdistinct : (c.overduePeers now).Nodup := nodup_keys_filter h _
  have hsessions : ∀ peer ∈ c.overduePeers now, c.hasSession peer = true := by
    intro peer hpeer
    obtain ⟨session, hsession, _⟩ := mem_overduePeers.mp hpeer
    unfold hasSession session?
    rw [lookup_of_mem h hsession]
    rfl
  unfold failOverduePeers
  rw [failPeers_eq hdistinct hsessions]
  congr 1
  refine List.filter_congr ?_
  intro e he
  -- a peer has one session, so its peer is overdue exactly if it is
  have hiff : e.1 ∈ c.overduePeers now ↔ isOverdue now e.2 = true := by
    rw [mem_overduePeers]
    constructor
    · rintro ⟨session, hsession, hdue⟩
      have hsame := (lookup_of_mem h hsession).symm.trans (lookup_of_mem h he)
      rwa [Option.some.inj hsame] at hdue
    · intro hdue
      exact ⟨e.2, he, hdue⟩
  simp [hiff]

theorem failOverdueOwn_fields (c : Inclusion) (now : UInt64) :
    (c.failOverdueOwn now).role = c.role ∧ (c.failOverdueOwn now).sessions = c.sessions ∧
      (c.failOverdueOwn now).own = c.own.filter (fun session => !isOverdue now session) ∧
      (c.failOverdueOwn now).events = c.events ++
        (c.own.filter (isOverdue now)).toList.map (.failed ·.peer .timeout) := by
  unfold failOverdueOwn
  cases hown : c.own with
  | none => exact ⟨rfl, rfl, hown, (List.append_nil _).symm⟩
  | some session =>
    simp only [Option.filter_some]
    by_cases hdue : isOverdue now session = true
    · rw [if_pos hdue, failOwn_eq .timeout hown, hdue]
      exact ⟨rfl, rfl, rfl, rfl⟩
    · rw [if_neg hdue, Bool.eq_false_iff.mpr hdue]
      exact ⟨rfl, rfl, hown, (List.append_nil _).symm⟩

/-- The deadlines end the handshakes that are overdue, of both kinds, and each of
them with one result. -/
theorem checkTimeouts_fields (h : (keys c.sessions).Nodup) (now : UInt64) :
    (c.checkTimeouts now).role = c.role ∧
      (c.checkTimeouts now).sessions = (c.sessions.filter fun e => !isOverdue now e.2) ∧
      (c.checkTimeouts now).own = c.own.filter (fun session => !isOverdue now session) ∧
      (c.checkTimeouts now).events = c.events ++
        ((c.overduePeers now).map (.failed · .timeout) ++
          (c.own.filter (isOverdue now)).toList.map (.failed ·.peer .timeout)) := by
  have hcheck : c.checkTimeouts now = (c.failOverduePeers now).failOverdueOwn now := rfl
  rw [hcheck, failOverduePeers_eq h now]
  obtain ⟨hrole, hsessions, hown, hevents⟩ := failOverdueOwn_fields
    { c with
      sessions := c.sessions.filter fun e => !isOverdue now e.2
      events := c.events ++ (c.overduePeers now).map (.failed · .timeout) } now
  exact ⟨hrole, hsessions, hown, hevents.trans (List.append_assoc _ _ _)⟩

theorem own_checked (h : (keys c.sessions).Nodup) (now : UInt64) :
    (c.checkTimeouts now).own = none ∨ (c.checkTimeouts now).own = c.own := by
  rw [(checkTimeouts_fields h now).2.2.1]
  cases c.own with
  | none => exact Or.inl rfl
  | some session =>
    rw [Option.filter_some]
    split
    · exact Or.inr rfl
    · exact Or.inl rfl

theorem Shaped.checkTimeouts (h : c.Shaped) (now : UInt64) : (c.checkTimeouts now).Shaped := by
  obtain ⟨hrole, hsessions, _⟩ := checkTimeouts_fields h.distinct now
  exact h.narrow hrole (own_checked h.distinct now) (hsessions ▸ List.filter_sublist)

end Inclusion

namespace Party

variable {s s' : Party} {p : Packet} {now : UInt64} {config : Config}

theorem Handled.shaped {result : Except InclusionError (Option Packet)}
    (h : Handled s p now result s') (hs : s.inclusion.Shaped) : s'.inclusion.Shaped := by
  cases h with
  | refused e draws => exact hs
  | peerFailed e draws session hsession => exact hs.failPeer e hsession
  | ownFailed e draws session hown hpeer => exact hs.failOwn e
  | opened draws session peerKey peerNonce bootstrap reply htopic hrole haccepting hsession hroom
      hkey hoffer hnew =>
    have hrest : Inclusion.Shaped
        { s.inclusion with included := s.inclusion.included.filter (· != p.source) } :=
      hs.narrow rfl (Or.inr rfl) (List.Sublist.refl _)
    refine hrest.putSession hrole ?_
    rw [hnew]
    rfl
  | confirmed draws session bootstrap key reply htopic haddressed hsession =>
    have hpeer : session.peer = p.source := hs.peer_of_session hsession
    exact hs.putSession (hs.role_of_session hsession) hpeer
  | completed session key htopic haddressed hsession =>
    exact hs.narrow rfl (Or.inr rfl) List.filter_sublist
  | answered draws session hubKey hubNonce bootstrap reply htopic haddressed hown =>
    exact hs.setOwn (hs.role_of_own hown) _
  | joined draws session bootstrap key keys result htopic haddressed hown =>
    exact hs.narrow rfl (Or.inl rfl) (List.Sublist.refl _)

theorem Requested.shaped {result : Except MeshError Packet} (h : Requested s now result s')
    (hs : s.inclusion.Shaped) : s'.inclusion.Shaped := by
  cases h with
  | refused e draws => exact hs
  | asked draws session p hrole =>
    exact (hs.setOwn hrole session).narrow rfl (Or.inr rfl) (List.Sublist.refl _)

/-- What a party of either role can be asked. -/
inductive Turn where
  | call (call : Call)
  | request (now : UInt64)

def Turn.perform (s : Party) : Turn → Party
  | call c => c.perform s
  | request now => (s.request now).2

theorem Call.shaped (call : Call) (hs : s.inclusion.Shaped) :
    (call.perform s).inclusion.Shaped := by
  cases call with
  | enable =>
    obtain ⟨accepting, henable⟩ := s.inclusion_enable
    rw [show (Call.enable.perform s).inclusion = _ from henable]
    exact hs.narrow rfl (Or.inr rfl) (List.Sublist.refl _)
  | disable => exact hs.narrow rfl (Or.inr rfl) (List.Sublist.refl _)
  | handle p now => exact (s.handled p now).shaped hs
  | expire now => exact hs.checkTimeouts now
  | drain => exact hs.narrow rfl (Or.inr rfl) (List.Sublist.refl _)
  | equip keys => exact hs

theorem Turn.shaped (turn : Turn) (hs : s.inclusion.Shaped) :
    (turn.perform s).inclusion.Shaped := by
  cases turn with
  | call call => exact call.shaped hs
  | request now => exact (s.requested now).shaped hs

theorem Turn.setup (turn : Turn) (s : Party) :
    (turn.perform s).inclusion.setup = s.inclusion.setup := by
  cases turn with
  | call call =>
    cases call with
    | handle p now => exact (s.handled p now).setup
    | expire now => exact s.inclusion.checkTimeouts_setup now
    | enable =>
      obtain ⟨accepting, henable⟩ := s.inclusion_enable
      rw [show (Turn.perform s (.call .enable)).inclusion = _ from henable]
      rfl
    | _ => rfl
  | request now => exact (s.requested now).setup

/-- A party that has not been asked anything, with whatever keys and draws. -/
def start (config : Config) (keys : KeyRing) (draws : Draws) : Party where
  inclusion := .create config
  keys := keys
  draws := draws

/-- The states of a party with this configuration. Besides being asked, it may
forget its membership or take one up that it has remembered. -/
inductive Reachable (config : Config) : Party → Prop where
  | start (keys : KeyRing) (draws : Draws) : Reachable config (.start config keys draws)
  | turn {s : Party} (turn : Turn) : Reachable config s → Reachable config (turn.perform s)
  | reset {s : Party} :
      Reachable config s → Reachable config { s with inclusion := s.inclusion.reset }
  | restore {s : Party} (state : Membership) :
      Reachable config s → Reachable config { s with inclusion := s.inclusion.restore state }

theorem Reachable.turns (h : Reachable config s) (turns : List Turn) :
    Reachable config (turns.foldl Turn.perform s) := by
  induction turns generalizing s with
  | nil => exact h
  | cons turn turns ih => exact ih (h.turn turn)

theorem Reachable.setup (h : Reachable config s) :
    s.inclusion.setup = (Inclusion.create config).setup := by
  induction h with
  | start keys draws => rfl
  | turn turn _ ih => exact (turn.setup _).trans ih
  | reset _ ih => exact ih
  | @restore s state _ ih => exact (s.inclusion.restore_setup state).trans ih

theorem Reachable.role (h : Reachable config s) : s.inclusion.role = config.role :=
  congrArg Inclusion.Setup.role h.setup

theorem Reachable.shaped (h : Reachable config s) : s.inclusion.Shaped := by
  induction h with
  | start keys draws => exact Inclusion.shaped_create config
  | turn turn _ ih => exact turn.shaped ih
  | reset _ ih => exact ih.narrow rfl (Or.inl rfl) (List.Sublist.refl _)
  | restore state _ ih =>
    unfold Inclusion.restore
    split
    · exact ih.narrow rfl (Or.inr rfl) (List.Sublist.refl _)
    · exact ih

end Party
end Meshwork
