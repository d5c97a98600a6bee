import Meshwork.Proofs.Router.Screen
import Meshwork.Router.Station

/-!
# Runs of a router

A run is a list of calls: frames that are heard, messages that are sent, sweeps,
and whatever the world does to the radio in between. Each call acts on the
tracker by a few events that are told here, and by nothing else.
-/

namespace Meshwork
set_option autoImplicit false
open DuplicateTracker (Event Between between_cons)

namespace Station

inductive Call where
  | route (frame : Bytes) (rssi : Int16) (now : Nat) (keys : KeyRing)
  | originate (destination : NodeId) (topic : Topic) (payload : Bytes) (now : Nat) (keys : KeyRing)
  | sweep (now : Nat)
  /-- Frames arrive, are taken off, or the radio fails and recovers. -/
  | air (radio : Radio)

def Call.time? : Call → Option Nat
  | route _ _ now _ => some now
  | originate _ _ _ now _ => some now
  | sweep now => some now
  | air _ => none

def Call.perform (s : Station) : Call → Station
  | route frame rssi now keys => (s.route frame rssi now keys).2
  | originate destination topic payload now keys =>
    (s.originate destination topic payload now keys).2
  | sweep now => { s with router := s.router.sweep now }
  | air radio => { s with radio := radio }

def run (s : Station) (calls : List Call) : Station := calls.foldl Call.perform s

/-! ## What the tracker sees -/

/-- A packet is recorded when it is sent, if it fits in a frame at all. -/
def transmitEvents (s : Station) (p : Packet) (now : Nat) : List Event :=
  match (s.address p).encode with
  | .error _ => []
  | .ok _ => [.observe p.key now]

def originateEvents (s : Station) (destination : NodeId) (topic : Topic) (payload : Bytes)
    (now : Nat) (keys : KeyRing) : List Event :=
  match s.compose destination topic payload keys with
  | (.error _, _) => []
  | (.ok p, s) => s.transmitEvents p now

/-- Of a delivery only the answer is recorded. -/
def deliverUnicastEvents (s : Station) (p : Packet) (now : Nat) (keys : KeyRing) : List Event :=
  match s.deliver p keys with
  | (.error _, _) => []
  | (.ok (), s) =>
    match p.topic.reply? with
    | none => []
    | some reply => s.originateEvents p.source reply (replyBody p reply) now keys

def dispatchEvents (s : Station) (p : Packet) (now : Nat) (keys : KeyRing) : List Event :=
  if p.topic.isInclusion ∨ p.destination ≠ s.router.nodeId then []
  else s.deliverUnicastEvents p now keys

/-- The screen looks a message up unless another relay is to take it. -/
def screenEvents (r : Router) (frame : Bytes) (now : Nat) : List Event :=
  match Packet.decode frame with
  | .error _ => []
  | .ok p => if r.isOverheard p then [] else [.observe p.key now]

/-- What happens to the tracker once a frame is past the screen, if it gets past it. -/
def admittedEvents (s : Station) (frame : Bytes) (rssi : Int16) (now : Nat) (keys : KeyRing) :
    List Event :=
  match s.router.screen frame rssi now with
  | (.error _, _) => []
  | (.ok p, router) => { s with router := router : Station }.dispatchEvents p now keys

def Call.events (s : Station) : Call → List Event
  | route frame rssi now keys =>
    screenEvents s.router frame now ++ s.admittedEvents frame rssi now keys
  | originate destination topic payload now keys =>
    s.originateEvents destination topic payload now keys
  | sweep now => [.evict now]
  | air _ => []

def events (s : Station) : List Call → List Event
  | [] => []
  | call :: calls => call.events s ++ events (call.perform s) calls

/-! ## The tracker after a call -/

theorem send_tracker (s : Station) (frame : Bytes) :
    (s.send frame).2.router.tracker = s.router.tracker := by
  unfold send
  split <;> rfl

theorem transmit_tracker (s : Station) (p : Packet) (now : Nat) :
    (s.transmit p now).2.router.tracker = s.router.tracker.run (s.transmitEvents p now) := by
  unfold transmit transmitEvents
  cases (s.address p).encode with
  | error e => rfl
  | ok frame =>
    have hsend := send_tracker (s.record p now) frame
    simp only
    split
    · rename_i h
      rw [h] at hsend
      exact hsend
    · rename_i h
      rw [h] at hsend
      exact hsend

theorem compose_router (s : Station) (destination : NodeId) (topic : Topic) (payload : Bytes)
    (keys : KeyRing) : (s.compose destination topic payload keys).2.router = s.router := by
  unfold compose
  split
  · rfl
  · split
    · rfl
    · simp only
      split <;> rfl

theorem originate_tracker (s : Station) (destination : NodeId) (topic : Topic) (payload : Bytes)
    (now : Nat) (keys : KeyRing) :
    (s.originate destination topic payload now keys).2.router.tracker =
      s.router.tracker.run (s.originateEvents destination topic payload now keys) := by
  have hrouter := compose_router s destination topic payload keys
  unfold originate originateEvents
  generalize s.compose destination topic payload keys = composed at hrouter ⊢
  rcases composed with ⟨result, composed⟩
  change composed.router = s.router at hrouter
  cases result with
  | error e => exact congrArg Router.tracker hrouter
  | ok p =>
    rw [← hrouter]
    exact transmit_tracker composed p now

theorem deliver_tracker (s : Station) (p : Packet) (keys : KeyRing) :
    (s.deliver p keys).2.router.tracker = s.router.tracker := by
  unfold deliver Router.deliver
  simp only
  split
  · rfl
  · split
    · rfl
    · simp only [Router.hand, Router.heedBye]
      split <;> rfl

theorem relay_tracker (s : Station) (p : Packet) (nextHop : NodeId) :
    (s.relay p nextHop).2.router.tracker = s.router.tracker := by
  unfold relay
  split
  · rfl
  · split
    · rfl
    · rename_i frame _
      have hsend := send_tracker s frame
      split
      · rename_i h
        rw [h] at hsend
        exact hsend
      · rename_i h
        rw [h] at hsend
        split <;> exact hsend

theorem deliverUnicast_tracker (s : Station) (p : Packet) (now : Nat) (keys : KeyRing) :
    (s.deliverUnicast p now keys).2.router.tracker =
      s.router.tracker.run (s.deliverUnicastEvents p now keys) := by
  have htracker := deliver_tracker s p keys
  unfold deliverUnicast deliverUnicastEvents
  generalize s.deliver p keys = delivered at htracker ⊢
  rcases delivered with ⟨result, delivered⟩
  change delivered.router.tracker = s.router.tracker at htracker
  cases result with
  | error reason => exact htracker
  | ok done =>
    cases done
    cases p.topic.reply? with
    | none => exact htracker
    | some reply =>
      have hreply := originate_tracker delivered p.source reply (replyBody p reply) now keys
      rw [htracker] at hreply
      simp only
      generalize delivered.originate p.source reply (replyBody p reply) now keys = answered
        at hreply ⊢
      rcases answered with ⟨sent, answered⟩
      cases sent with
      | error e => exact hreply
      | ok id => exact hreply

theorem spread_tracker (s : Station) (p : Packet) (keys : KeyRing) :
    (s.spread p keys).2.router.tracker = s.router.tracker := by
  have htracker := deliver_tracker s p keys
  unfold spread
  generalize s.deliver p keys = delivered at htracker ⊢
  rcases delivered with ⟨result, delivered⟩
  change delivered.router.tracker = s.router.tracker at htracker
  simp only
  split
  · exact (relay_tracker delivered p .broadcast).trans htracker
  · cases result with
    | error reason => exact htracker
    | ok _ => exact htracker

theorem forward_tracker (s : Station) (p : Packet) :
    (s.forward p).2.router.tracker = s.router.tracker := by
  unfold forward
  split
  · rfl
  · split
    · rfl
    · exact relay_tracker s p (s.router.nextHop p.destination)

theorem dispatch_tracker (s : Station) (p : Packet) (now : Nat) (keys : KeyRing) :
    (s.dispatch p now keys).2.router.tracker =
      s.router.tracker.run (s.dispatchEvents p now keys) := by
  unfold dispatch dispatchEvents
  by_cases htopic : p.topic.isInclusion = true
  · rw [if_pos htopic, if_pos (Or.inl htopic)]
    rfl
  · rw [if_neg htopic]
    by_cases hown : p.destination = s.router.nodeId
    · rw [if_pos hown, if_neg (by rintro (h | h) <;> contradiction)]
      exact deliverUnicast_tracker s p now keys
    · rw [if_neg hown, if_pos (Or.inr hown)]
      split
      · exact spread_tracker s p keys
      · exact forward_tracker s p

theorem screen_tracker (r : Router) (frame : Bytes) (rssi : Int16) (now : Nat) :
    (r.screen frame rssi now).2.tracker = r.tracker.run (screenEvents r frame now) := by
  unfold Router.screen screenEvents
  simp only
  cases Packet.decode frame with
  | error e => rfl
  | ok p => exact Router.screenPacket_tracker _ p rssi now

theorem screenEvents_eq {r : Router} {frame : Bytes} {rssi : Int16} {now : Nat} {p : Packet}
    (h : (r.screen frame rssi now).1 = .ok p) :
    screenEvents r frame now = [.observe p.key now] := by
  obtain ⟨hdecode, hheard, _⟩ := Router.screen_eq_ok_iff.mp h
  unfold screenEvents
  rw [hdecode]
  exact if_neg (by rw [hheard]; decide)

theorem route_tracker (s : Station) (frame : Bytes) (rssi : Int16) (now : Nat) (keys : KeyRing) :
    (s.route frame rssi now keys).2.router.tracker =
      s.router.tracker.run (screenEvents s.router frame now ++
        s.admittedEvents frame rssi now keys) := by
  have hscreen := screen_tracker s.router frame rssi now
  rw [DuplicateTracker.run_append, ← hscreen]
  unfold route admittedEvents
  rcases s.router.screen frame rssi now with ⟨result, screened⟩
  cases result with
  | error reason => rfl
  | ok p => exact dispatch_tracker { s with router := screened } p now keys

theorem perform_tracker (s : Station) (call : Call) :
    (call.perform s).router.tracker = s.router.tracker.run (call.events s) := by
  cases call with
  | route frame rssi now keys => exact route_tracker s frame rssi now keys
  | originate destination topic payload now keys =>
    exact originate_tracker s destination topic payload now keys
  | sweep now => rfl
  | air radio => rfl

theorem run_tracker (s : Station) (calls : List Call) :
    (s.run calls).router.tracker = s.router.tracker.run (s.events calls) := by
  induction calls generalizing s with
  | nil => rfl
  | cons call calls ih =>
    rw [events, DuplicateTracker.run_append, ← perform_tracker]
    exact ih (call.perform s)

/-! ## When it sees it -/

theorem time_originateEvents {s : Station} {destination : NodeId} {topic : Topic}
    {payload : Bytes} {now : Nat} {keys : KeyRing} {e : Event}
    (h : e ∈ s.originateEvents destination topic payload now keys) : e.time = now := by
  unfold originateEvents at h
  split at h
  · cases h
  · unfold transmitEvents at h
    split at h
    · cases h
    · rw [List.mem_singleton.mp h]
      rfl

theorem time_admittedEvents {s : Station} {frame : Bytes} {rssi : Int16} {now : Nat}
    {keys : KeyRing} {e : Event} (h : e ∈ s.admittedEvents frame rssi now keys) :
    e.time = now := by
  unfold admittedEvents at h
  split at h
  · cases h
  · unfold dispatchEvents at h
    split at h
    · cases h
    · unfold deliverUnicastEvents at h
      split at h
      · cases h
      · split at h
        · cases h
        · exact time_originateEvents h

theorem time_screenEvents {r : Router} {frame : Bytes} {now : Nat} {e : Event}
    (h : e ∈ screenEvents r frame now) : e.time = now := by
  unfold screenEvents at h
  split at h
  · cases h
  · split at h
    · cases h
    · rw [List.mem_singleton.mp h]
      rfl

theorem time_of_mem_events {s : Station} {call : Call} {e : Event} (h : e ∈ call.events s) :
    call.time? = some e.time := by
  cases call with
  | route frame rssi now keys =>
    rcases List.mem_append.mp h with h | h
    · exact congrArg some (time_screenEvents h).symm
    · exact congrArg some (time_admittedEvents h).symm
  | originate destination topic payload now keys =>
    exact congrArg some (time_originateEvents h).symm
  | sweep now =>
    rw [List.mem_singleton.mp h]
    rfl
  | air radio => cases h

/-- The tracker is asked at the times of the calls. -/
theorem between_events {start stop : Nat} (s : Station) (calls : List Call)
    (h : Between start stop (calls.filterMap Call.time?)) :
    Between start stop ((s.events calls).map Event.time) := by
  induction calls generalizing s start with
  | nil => exact h
  | cons call calls ih =>
    rw [events, List.map_append]
    have htime : ∀ t ∈ (call.events s).map Event.time, call.time? = some t := by
      intro t ht
      obtain ⟨e, he, rfl⟩ := List.mem_map.mp ht
      exact time_of_mem_events he
    cases hcall : call.time? with
    | none =>
      rw [List.filterMap_cons_none hcall] at h
      refine Between.prepend (Nat.le_refl start) ?_ (ih (call.perform s) h)
      intro t ht
      have hnone := htime t ht
      rw [hcall] at hnone
      cases hnone
    | some time =>
      rw [List.filterMap_cons_some hcall] at h
      obtain ⟨hle, hrest⟩ := between_cons.mp h
      refine Between.prepend hle ?_ (ih (call.perform s) hrest)
      intro t ht
      have hsome := htime t ht
      rw [hcall] at hsome
      exact (Option.some.inj hsome).symm

end Station
end Meshwork
