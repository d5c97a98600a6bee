import Meshwork.Proofs.Handshake.Shape

/-!
# The ledger of handshakes

A handshake that a party has started is under way, or it has ended in one result
that is queued. Every turn enters as many handshakes as it starts and strikes out
as many as it queues results for, those with peers by their peers.
-/

namespace Meshwork
set_option autoImplicit false
open Association

/-- The other end of the handshake that a result is about. -/
def InclusionEvent.peer : InclusionEvent → NodeId
  | included peer => peer
  | failed peer _ => peer

namespace Inclusion

/-- From `c` to `c'` the books are even: the handshakes that were started and those
that were under way are those under way now and those that ended, for the
handshakes with peers and for the one of the party itself. -/
def Even (c c' : Inclusion) (asked : Nat) (accepted : List NodeId)
    (queued : List InclusionEvent) : Prop :=
  ∃ ended mine, queued.Perm (ended ++ mine) ∧
    (accepted ++ keys c.sessions).Perm (keys c'.sessions ++ ended.map InclusionEvent.peer) ∧
    asked + c.own.toList.length = c'.own.toList.length + mine.length

variable {c c' c'' : Inclusion} {peer : NodeId} {session : Session} {now : UInt64}

theorem Even.of_eq (hsessions : c'.sessions = c.sessions) (hown : c'.own = c.own) :
    Even c c' 0 [] [] := by
  refine ⟨[], [], List.Perm.refl _, ?_, ?_⟩
  · rw [hsessions, List.map_nil, List.append_nil, List.nil_append]
  · rw [hown, Nat.zero_add, List.length_nil, Nat.add_zero]

theorem Even.trans {asked asked' : Nat} {accepted accepted' : List NodeId}
    {queued queued' : List InclusionEvent} (h : Even c c' asked accepted queued)
    (h' : Even c' c'' asked' accepted' queued') :
    Even c c'' (asked + asked') (accepted ++ accepted') (queued ++ queued') := by
  obtain ⟨ended, mine, hqueued, hpeers, hmine⟩ := h
  obtain ⟨ended', mine', hqueued', hpeers', hmine'⟩ := h'
  refine ⟨ended ++ ended', mine ++ mine', ?_, ?_, ?_⟩
  · refine (hqueued.append hqueued').trans (List.perm_iff_count.mpr fun event => ?_)
    simp only [List.count_append]
    omega
  · refine List.perm_iff_count.mpr fun other => ?_
    have hcount := hpeers.count_eq other
    have hcount' := hpeers'.count_eq other
    simp only [List.count_append, List.map_append] at hcount hcount' ⊢
    omega
  · rw [List.length_append]
    omega

theorem keys_perm (hc : (keys c.sessions).Nodup) (hsession : c.session? peer = some session) :
    (keys c.sessions).Perm (keys (eraseSession peer c.sessions) ++ [peer]) := by
  have herase : keys (eraseSession peer c.sessions) = (keys c.sessions).erase peer := by
    rw [hc.erase_eq_filter, keys, keys, List.filter_map]
    rfl
  rw [herase]
  exact (List.perm_cons_erase (mem_keys (mem_of_lookup hsession))).trans
    (List.perm_append_singleton _ _).symm

/-- A session that ends is struck out with a result that names its peer. -/
theorem Even.ended (hc : (keys c.sessions).Nodup) (hsession : c.session? peer = some session)
    (hsessions : c'.sessions = eraseSession peer c.sessions) (hown : c'.own = c.own)
    {event : InclusionEvent} (hevent : event.peer = peer) : Even c c' 0 [] [event] := by
  refine ⟨[event], [], List.Perm.refl _, ?_, ?_⟩
  · rw [hsessions, List.nil_append, List.map_singleton, hevent]
    exact keys_perm hc hsession
  · rw [hown, Nat.zero_add, List.length_nil, Nat.add_zero]

/-- The handshake of the party itself ends. -/
theorem Even.given_up (hsessions : c'.sessions = c.sessions) (hown : c.own = some session)
    (hnone : c'.own = none) (event : InclusionEvent) : Even c c' 0 [] [event] := by
  refine ⟨[], [event], List.Perm.refl _, ?_, ?_⟩
  · rw [hsessions, List.map_nil, List.append_nil, List.nil_append]
  · rw [hown, hnone]
    rfl

/-- A peer comes into a list of sessions in which it was not. -/
theorem Even.entered (hsession : c.session? peer = none)
    (hsessions : c'.sessions = eraseSession peer c.sessions ++ [(peer, session)])
    (hown : c'.own = c.own) : Even c c' 0 [peer] [] := by
  refine ⟨[], [], List.Perm.refl _, ?_, ?_⟩
  · rw [hsessions, eraseSession_of_none hsession, List.map_nil, List.append_nil, keys, keys,
      List.map_append]
    exact (List.perm_append_singleton _ _).symm
  · rw [hown, Nat.zero_add, List.length_nil, Nat.add_zero]

/-- A session is put in place of another with the same peer. -/
theorem Even.replaced {old : Session} (hc : (keys c.sessions).Nodup)
    (hold : c.session? peer = some old)
    (hsessions : c'.sessions = eraseSession peer c.sessions ++ [(peer, session)])
    (hown : c'.own = c.own) : Even c c' 0 [] [] := by
  refine ⟨[], [], List.Perm.refl _, ?_, ?_⟩
  · rw [hsessions, List.map_nil, List.append_nil, List.nil_append]
    unfold keys
    rw [List.map_append]
    exact keys_perm hc hold
  · rw [hown, Nat.zero_add, List.length_nil, Nat.add_zero]

theorem activeSessions_eq (c : Inclusion) :
    c.activeSessions = c.sessions.length + c.own.toList.length := by
  unfold activeSessions
  cases c.own with
  | none => rfl
  | some session => rfl

/-- The deadlines strike out handshakes of both kinds at once. -/
theorem even_checkTimeouts (h : (keys c.sessions).Nodup) (now : UInt64) :
    Even c (c.checkTimeouts now) 0 []
      ((c.overduePeers now).map (.failed · .timeout) ++
        (c.own.filter (isOverdue now)).toList.map (.failed ·.peer .timeout)) := by
  obtain ⟨_, hsessions, hown, _⟩ := checkTimeouts_fields h now
  refine ⟨_, _, List.Perm.refl _, ?_, ?_⟩
  · have hpeers : ((c.overduePeers now).map (.failed · .timeout)).map InclusionEvent.peer =
        keys (c.sessions.filter fun e => isOverdue now e.2) := by
      rw [List.map_map]
      exact List.map_id _
    rw [hpeers, hsessions, List.nil_append, keys, keys, keys, ← List.map_append]
    refine List.Perm.map Prod.fst (List.Perm.trans ?_ List.perm_append_comm)
    exact (List.filter_append_perm (fun e : NodeId × Session => isOverdue now e.2) c.sessions).symm
  · rw [hown]
    cases c.own with
    | none => rfl
    | some session =>
      rw [Option.filter_some, Option.filter_some]
      cases isOverdue now session with
      | true => rfl
      | false => rfl

end Inclusion

namespace Party

variable {s s' : Party} {p : Packet} {now : UInt64}

/-- The peer whose request has been taken, if that is what has come of a packet. -/
def acceptedOf (p : Packet) : Except InclusionError (Option Packet) → List NodeId
  | .ok _ => if p.topic = .includeRequest then [p.source] else []
  | .error _ => []

theorem acceptedOf_of_ne (result : Except InclusionError (Option Packet))
    (h : p.topic ≠ .includeRequest) : acceptedOf p result = [] := by
  cases result with
  | error e => rfl
  | ok reply => exact if_neg h

theorem Handled.even {result : Except InclusionError (Option Packet)}
    (h : Handled s p now result s') (hs : s.inclusion.Shaped) :
    ∃ queued, s'.inclusion.events = s.inclusion.events ++ queued ∧
      s.inclusion.Even s'.inclusion 0 (acceptedOf p result) queued := by
  cases h with
  | refused e draws => exact ⟨[], (List.append_nil _).symm, .of_eq rfl rfl⟩
  | peerFailed e draws session hsession =>
    change ∃ queued, (s.inclusion.failPeer p.source e).events = _ ∧
      s.inclusion.Even (s.inclusion.failPeer p.source e) 0 [] queued
    rw [Inclusion.failPeer_eq e hsession]
    refine ⟨_, rfl, Inclusion.Even.ended hs.distinct hsession ?_ ?_ ?_⟩
    all_goals rfl
  | ownFailed e draws session hown hpeer =>
    change ∃ queued, (s.inclusion.failOwn e).events = _ ∧
      s.inclusion.Even (s.inclusion.failOwn e) 0 [] queued
    rw [Inclusion.failOwn_eq e hown]
    refine ⟨_, rfl, Inclusion.Even.given_up ?_ hown ?_ _⟩
    all_goals rfl
  | opened draws session peerKey peerNonce bootstrap reply htopic hrole haccepting hsession =>
    rw [acceptedOf, if_pos htopic]
    exact ⟨[], (List.append_nil _).symm, .entered hsession rfl rfl⟩
  | confirmed draws session bootstrap key reply htopic haddressed hsession =>
    rw [acceptedOf_of_ne _ (by rw [htopic]; decide)]
    exact ⟨[], (List.append_nil _).symm, .replaced hs.distinct hsession rfl rfl⟩
  | completed session key htopic haddressed hsession =>
    rw [acceptedOf_of_ne _ (by rw [htopic]; decide)]
    refine ⟨_, rfl, Inclusion.Even.ended hs.distinct hsession ?_ ?_ ?_⟩
    all_goals rfl
  | answered draws session hubKey hubNonce bootstrap reply htopic haddressed hown =>
    rw [acceptedOf_of_ne _ (by rw [htopic]; decide)]
    refine ⟨[], (List.append_nil _).symm, [], [], List.Perm.refl _, ?_, ?_⟩
    · exact (List.append_nil _).symm ▸ List.Perm.refl _
    · rw [hown]
      rfl
  | joined draws session bootstrap key keys result htopic haddressed hown =>
    rw [acceptedOf_of_ne _ (by rw [htopic]; decide)]
    refine ⟨_, rfl, Inclusion.Even.given_up ?_ hown ?_ _⟩
    all_goals rfl

/-- The time at which the party has asked for inclusion, if it has. -/
def askedOf (now : UInt64) : Except MeshError Packet → List UInt64
  | .ok _ => [now]
  | .error _ => []

theorem Requested.even {result : Except MeshError Packet} (h : Requested s now result s') :
    s'.inclusion.events = s.inclusion.events ∧
      s.inclusion.Even s'.inclusion (askedOf now result).length [] [] := by
  cases h with
  | refused e draws =>
    refine ⟨rfl, Inclusion.Even.of_eq ?_ ?_⟩
    all_goals rfl
  | asked draws session p hrole hstate hkey hown =>
    refine ⟨rfl, [], [], List.Perm.refl _, ?_, ?_⟩
    · exact (List.append_nil _).symm ▸ List.Perm.refl _
    · rw [hown]
      rfl

/-! ## Turns -/

namespace Turn

def asked (s : Party) : Turn → List UInt64
  | request now => askedOf now (s.request now).1
  | call _ => []

def accepted (s : Party) : Turn → List NodeId
  | call (.handle p now) => acceptedOf p (s.handle p now).1
  | _ => []

/-- The results that have come into the queue. -/
def queued (s : Party) (turn : Turn) : List InclusionEvent :=
  s.inclusion.queued (turn.perform s).inclusion

/-- The results that have been taken out of the queue. -/
def drained (s : Party) : Turn → List InclusionEvent
  | call .drain => s.inclusion.drain.1
  | _ => []

/-- What a turn adds to the queue is behind what is left of it, and the books are
even if they were before. -/
theorem even (turn : Turn) (hs : s.inclusion.Shaped) :
    turn.drained s ++ (turn.perform s).inclusion.events = s.inclusion.events ++ turn.queued s ∧
      s.inclusion.Even (turn.perform s).inclusion (turn.asked s).length (turn.accepted s)
        (turn.queued s) := by
  -- all turns but one only append to the queue
  suffices hgrows : turn ≠ .call .drain → ∃ more,
      (turn.perform s).inclusion.events = s.inclusion.events ++ more ∧
      s.inclusion.Even (turn.perform s).inclusion (turn.asked s).length (turn.accepted s) more by
    by_cases hdrain : turn = .call .drain
    · rw [hdrain]
      have hqueued : (Turn.call .drain).queued s = [] := List.drop_nil
      rw [hqueued]
      exact ⟨rfl, Inclusion.Even.of_eq rfl rfl⟩
    · obtain ⟨more, hmore, heven⟩ := hgrows hdrain
      have hnone : turn.drained s = [] := by
        unfold drained
        split
        · exact absurd rfl hdrain
        · rfl
      rw [queued, Inclusion.queued_of_append hmore, hnone]
      exact ⟨hmore, heven⟩
  intro hdrain
  cases turn with
  | request now =>
    obtain ⟨hevents, heven⟩ := (s.requested now).even
    exact ⟨[], hevents.trans (List.append_nil _).symm, heven⟩
  | call call =>
    cases call with
    | enable =>
      obtain ⟨accepting, henable⟩ := s.inclusion_enable
      change ∃ more, s.enable.2.inclusion.events = _ ∧
        s.inclusion.Even s.enable.2.inclusion 0 [] more
      rw [henable]
      exact ⟨[], (List.append_nil _).symm, Inclusion.Even.of_eq rfl rfl⟩
    | disable => exact ⟨[], (List.append_nil _).symm, Inclusion.Even.of_eq rfl rfl⟩
    | handle p now => exact (s.handled p now).even hs
    | expire now =>
      obtain ⟨_, _, _, hevents⟩ := Inclusion.checkTimeouts_fields hs.distinct now
      exact ⟨_, hevents, Inclusion.even_checkTimeouts hs.distinct now⟩
    | drain => exact absurd rfl hdrain
    | equip keys => exact ⟨[], (List.append_nil _).symm, Inclusion.Even.of_eq rfl rfl⟩

end Turn

/-! ## Runs -/

def run (s : Party) (turns : List Turn) : Party := turns.foldl Turn.perform s

/-- What all turns of a run have entered, in their order. -/
def entries {α : Type} (entered : Party → Turn → List α) : Party → List Turn → List α
  | _, [] => []
  | s, turn :: turns => entered s turn ++ entries entered (turn.perform s) turns

theorem shaped_run (turns : List Turn) (hs : s.inclusion.Shaped) :
    (s.run turns).inclusion.Shaped := by
  induction turns generalizing s with
  | nil => exact hs
  | cons turn turns ih => exact ih (turn.shaped hs)

theorem even_run (turns : List Turn) (hs : s.inclusion.Shaped) :
    entries Turn.drained s turns ++ (s.run turns).inclusion.events =
        s.inclusion.events ++ entries Turn.queued s turns ∧
      s.inclusion.Even (s.run turns).inclusion (entries Turn.asked s turns).length
        (entries Turn.accepted s turns) (entries Turn.queued s turns) := by
  induction turns generalizing s with
  | nil => exact ⟨(List.append_nil _).symm, Inclusion.Even.of_eq rfl rfl⟩
  | cons turn turns ih =>
    obtain ⟨hqueue, heven⟩ := turn.even hs
    obtain ⟨hqueues, hevens⟩ := ih (turn.shaped hs)
    refine ⟨?_, ?_⟩
    · unfold entries
      rw [List.append_assoc]
      change _ ++ (_ ++ ((turn.perform s).run turns).inclusion.events) = _
      rw [hqueues, ← List.append_assoc, hqueue, List.append_assoc]
    · have hboth := heven.trans hevens
      rwa [← List.length_append] at hboth

/-- Whatever a party is asked from the start, and whatever packets it hears: the
handshakes that it has asked for and those that it has taken requests for are as
many as are under way and have been queued as ended. What was queued has been
drained or is in the queue still, in its order. The peers of sessions are those
whose requests were taken, each as often under way or ended as taken. And the
deadlines end those handshakes that are overdue and no other, each with one
result. -/
theorem handshakes_accounted (config : Config) (ring : KeyRing) (draws : Draws)
    (turns : List Turn) :
    let s := start config ring draws
    let c := (s.run turns).inclusion
    (entries Turn.asked s turns).length + (entries Turn.accepted s turns).length =
        c.activeSessions + (entries Turn.queued s turns).length ∧
      entries Turn.drained s turns ++ c.events = entries Turn.queued s turns ∧
      (∃ ended mine, (entries Turn.queued s turns).Perm (ended ++ mine) ∧
        (entries Turn.accepted s turns).Perm
          (c.sessions.map Prod.fst ++ ended.map InclusionEvent.peer) ∧
        (entries Turn.asked s turns).length = c.own.toList.length + mine.length) ∧
      ∀ now, (c.checkTimeouts now).sessions = c.sessions.filter (fun e => now < e.2.deadline) ∧
        (c.checkTimeouts now).own = c.own.filter (fun session => now < session.deadline) ∧
        (c.queued (c.checkTimeouts now)).Perm
          ((c.sessions.filter fun e => e.2.deadline ≤ now).map (.failed ·.1 .timeout) ++
            (c.own.filter fun session => session.deadline ≤ now).toList.map
              (.failed ·.peer .timeout)) := by
  intro s c
  have hs : s.inclusion.Shaped := Inclusion.shaped_create config
  obtain ⟨hqueue, ended, mine, hqueued, hpeers, hmine⟩ := even_run turns hs
  -- nothing is under way at the start
  have hsessions : Association.keys s.inclusion.sessions = [] := rfl
  have hidle : s.inclusion.own.toList.length = 0 := rfl
  rw [hsessions, List.append_nil] at hpeers
  rw [hidle, Nat.add_zero] at hmine
  refine ⟨?_, hqueue, ⟨ended, mine, hqueued, hpeers, hmine⟩, ?_⟩
  · have htotal := hqueued.length_eq
    have haccepted := hpeers.length_eq
    have hactive := (s.run turns).inclusion.activeSessions_eq
    rw [List.length_append] at htotal
    rw [List.length_append, List.length_map, Association.keys, List.length_map] at haccepted
    change _ = (s.run turns).inclusion.activeSessions + _
    omega
  · intro now
    obtain ⟨_, hsessions, hown, hevents⟩ :=
      Inclusion.checkTimeouts_fields (shaped_run turns hs).distinct now
    simp only [Inclusion.not_isOverdue] at hsessions hown
    refine ⟨hsessions, hown, ?_⟩
    rw [Inclusion.queued_of_append hevents, Inclusion.overduePeers, List.map_map]
    exact List.Perm.refl _

end Party
end Meshwork
