import Meshwork.Proofs.Handshake.Fields

/-!
# Runs of a network

Any number of hubs and devices, one for each identifier, and an air that keeps
whatever was put on it: a frame may be heard by anybody, at any time and as often
as the run wants. A run is a list of moves. What happens in it is told by the
numbers of the moves.
-/

namespace Meshwork
set_option autoImplicit false

/-- What one party does; a frame is named by the move that put it on the air. -/
inductive Action where
  | deliver (frame : Nat) (now : UInt64)
  | request (now : UInt64)
  | expire (now : UInt64)
  | leave
  | enable
  | disable
  | drain
deriving DecidableEq

structure Move where
  node : NodeId
  action : Action
deriving DecidableEq

namespace Party

/-- A device forgets its membership and its key. -/
def leave (s : Party) : Party :=
  if s.inclusion.role = .standard then
    { s with inclusion := s.inclusion.reset, keys := s.keys.clear }
  else s

/-- What a party sends, and what becomes of it. -/
def act (s : Party) (heard : Option Packet) : Action → Option Packet × Party
  | .deliver _ now =>
    match heard with
    | none => (none, s)
    | some p =>
      match s.handle p now with
      | (.ok reply, s) => (reply, s)
      | (.error _, s) => (none, s)
  | .request now =>
    match s.request now with
    | (.ok p, s) => (some p, s)
    | (.error _, s) => (none, s)
  | .expire now => (none, { s with inclusion := s.inclusion.checkTimeouts now })
  | .leave => (none, s.leave)
  | .enable => (none, s.enable.2)
  | .disable => (none, { s with inclusion := s.inclusion.disable })
  | .drain => (none, { s with inclusion := s.inclusion.drain.2 })

end Party

structure Network where
  party : NodeId → Party
  /-- What each move has put on the air, if anything. -/
  air : List (Option Packet) := []

namespace Network

def frame? (net : Network) (k : Nat) : Option Packet := (net.air[k]?).join

def heard (net : Network) : Action → Option Packet
  | .deliver frame _ => net.frame? frame
  | _ => none

def result (net : Network) (m : Move) : Option Packet × Party :=
  (net.party m.node).act (net.heard m.action) m.action

def perform (net : Network) (m : Move) : Network where
  party n := if n = m.node then (net.result m).2 else net.party n
  air := net.air ++ [(net.result m).1]

end Network

structure Run where
  start : Network
  moves : List Move

namespace Run

/-- The network before the move with this number. -/
def state (r : Run) (i : Nat) : Network := (r.moves.take i).foldl Network.perform r.start

def party (r : Run) (i : Nat) (n : NodeId) : Party := (r.state i).party n

def own (r : Run) (i : Nat) (n : NodeId) : Option Session := (r.party i n).inclusion.own

def session? (r : Run) (i : Nat) (n peer : NodeId) : Option Session :=
  (r.party i n).inclusion.session? peer

def key? (r : Run) (i : Nat) (n : NodeId) : Option MeshKey := (r.party i n).keys.key

def node? (r : Run) (i : Nat) : Option NodeId := (r.moves[i]?).map Move.node

/-- The move whose frame is heard. -/
def heard? (r : Run) (i : Nat) : Option Nat :=
  match r.moves[i]? with
  | some ⟨_, .deliver frame _⟩ => some frame
  | _ => none

def said? (r : Run) (i : Nat) : Option Packet :=
  match r.moves[i]? with
  | some m => ((r.state i).result m).1
  | none => none

/-- A party sends something on a topic. -/
def Sends (r : Run) (i : Nat) (n : NodeId) (topic : Topic) : Prop :=
  r.node? i = some n ∧ (r.said? i).map Packet.topic = some topic

/-- Everybody starts without handshakes, under its own identifier, with one
provider for all. -/
structure Starts (r : Run) (provider : CryptoProvider) : Prop where
  air : r.start.air = []
  setup : ∀ n, (r.start.party n).inclusion.setup.nodeId = n
  own : ∀ n, (r.start.party n).inclusion.own = none
  sessions : ∀ n, (r.start.party n).inclusion.sessions = []
  provider : ∀ n, (r.start.party n).keys.provider = provider

variable {r : Run} {i k : Nat} {m : Move} {n : NodeId}

theorem state_succ (h : r.moves[i]? = some m) : r.state (i + 1) = (r.state i).perform m := by
  unfold state
  rw [List.take_add_one, h, List.foldl_append]
  rfl

theorem state_end (h : r.moves[i]? = none) : r.state (i + 1) = r.state i := by
  unfold state
  rw [List.take_add_one, h, Option.toList_none, List.append_nil]

theorem length_air (hair : r.start.air = []) (i : Nat) :
    (r.state i).air.length = min i r.moves.length := by
  induction i with
  | zero =>
    rw [show r.state 0 = r.start from rfl, hair, Nat.zero_min]
    rfl
  | succ i ih =>
    cases hm : r.moves[i]? with
    | none =>
      have hlen := List.getElem?_eq_none_iff.mp hm
      rw [state_end hm, ih]
      omega
    | some m =>
      have hlen := (List.getElem?_eq_some_iff.mp hm).1
      rw [state_succ hm, Network.perform, List.length_append, ih, List.length_singleton]
      omega

/-- What is on the air was said before. -/
theorem said_of_frame {p : Packet} (hair : r.start.air = []) (i : Nat)
    (h : (r.state i).frame? k = some p) : k < i ∧ r.said? k = some p := by
  induction i with
  | zero =>
    rw [show r.state 0 = r.start from rfl, Network.frame?, hair] at h
    cases h
  | succ i ih =>
    cases hm : r.moves[i]? with
    | none =>
      rw [state_end hm] at h
      obtain ⟨hlt, hsaid⟩ := ih h
      exact ⟨Nat.lt_succ_of_lt hlt, hsaid⟩
    | some m =>
      have hlen := length_air hair i
      have hi := (List.getElem?_eq_some_iff.mp hm).1
      rw [state_succ hm, Network.frame?, Network.perform] at h
      simp only at h
      by_cases hk : k < (r.state i).air.length
      · rw [List.getElem?_append_left hk] at h
        obtain ⟨hlt, hsaid⟩ := ih h
        exact ⟨Nat.lt_succ_of_lt hlt, hsaid⟩
      · rw [List.getElem?_append_right (Nat.le_of_not_lt hk)] at h
        cases hzero : k - (r.state i).air.length with
        | zero =>
          have hki : k = i := by omega
          rw [hzero] at h
          refine ⟨by omega, ?_⟩
          rw [said?, hki, hm]
          exact h
        | succ d =>
          rw [hzero] at h
          cases h

theorem party_other (h : r.node? i ≠ some n) : r.party (i + 1) n = r.party i n := by
  unfold party
  cases hm : r.moves[i]? with
  | none => rw [state_end hm]
  | some m =>
    rw [state_succ hm]
    refine if_neg fun hn => h ?_
    rw [node?, hm, hn]
    rfl

theorem party_mover (h : r.moves[i]? = some m) :
    r.party (i + 1) m.node = ((r.state i).result m).2 := by
  unfold party
  rw [state_succ h]
  exact if_pos rfl

end Run
end Meshwork
