import Meshwork.Proofs.Packet.Codec
import Meshwork.Proofs.Station.Calls

/-!
# No message is processed twice

A message that gets past the screen is recorded there, and the next copy gets
past it only when the tracker has forgotten the message. What the tracker sees in
between are the events of the calls in between, so this is a fact about trackers.
-/

namespace Meshwork
set_option autoImplicit false
open DuplicateTracker (Event Between between_cons Crowded crowded_of_forgotten)

namespace Station

/-- The messages that calls record as new, one after the other. -/
def recorded (s : Station) (calls : List Call) : List MessageKey :=
  s.router.tracker.recorded (s.events calls)

theorem between_of_pairwise {start stop : Nat} {before after : List Nat}
    (h : (before ++ start :: (after ++ [stop])).Pairwise (· ≤ ·)) :
    Between 0 start before ∧ Between start stop after := by
  constructor
  · refine List.pairwise_cons.mpr ⟨fun t _ => Nat.zero_le t, ?_⟩
    rw [List.append_cons] at h
    exact (List.pairwise_append.mp h).1
  · exact (List.pairwise_append.mp h).2.1

theorem run_append (s : Station) (calls more : List Call) :
    s.run (calls ++ more) = (s.run calls).run more :=
  List.foldl_append

/-- The case that a run starts with the first copy. -/
theorem crowded_of_second {s : Station} {frame again : Bytes} {rssi rssi' : Int16}
    {start stop : Nat} {keys : KeyRing} {between : List Call} {p q : Packet}
    (horderly : s.router.tracker.IsOrderly start) (hw : 1 ≤ s.router.tracker.window)
    (hc : 1 ≤ s.router.tracker.capacity)
    (htimes : Between start stop (between.filterMap Call.time?))
    (hfirst : (s.router.screen frame rssi start).1 = .ok p)
    (hsecond : ((s.run (.route frame rssi start keys :: between)).router.screen again rssi'
      stop).1 = .ok q)
    (hkey : p.key = q.key) :
    s.router.tracker.window ≤ stop - start ∨
      Crowded s.router.tracker.capacity p.key
        (s.recorded (.route frame rssi start keys :: between)) := by
  obtain ⟨_, _, hnew, _⟩ := Router.screen_eq_ok_iff.mp hfirst
  obtain ⟨_, _, hagain, _⟩ := Router.screen_eq_ok_iff.mp hsecond
  let later := s.admittedEvents frame rssi start keys ++
    (Call.perform s (.route frame rssi start keys)).events between
  have hevents : s.events (.route frame rssi start keys :: between) =
      .observe p.key start :: later := by
    rw [events, Call.events, screenEvents_eq hfirst]
    rfl
  have hrecord : Event.apply s.router.tracker (.observe p.key start) =
      s.router.tracker.record p.key start := by
    rw [Event.apply, DuplicateTracker.observe, hnew]
    rfl
  have hlater : Between start stop (later.map Event.time) := by
    rw [List.map_append]
    refine Between.prepend (Nat.le_refl start) ?_ (between_events _ between htimes)
    intro t ht
    obtain ⟨e, he, rfl⟩ := List.mem_map.mp ht
    exact time_admittedEvents he
  rw [run_tracker, hevents, ← hkey] at hagain
  have hforgotten : ((s.router.tracker.record p.key start).run later).contains p.key stop =
      false := by
    rw [← hrecord]
    exact hagain
  rcases crowded_of_forgotten later horderly hw hc hnew hlater hforgotten with
    hexpired | hcrowded
  · exact Or.inl hexpired
  · refine Or.inr (hcrowded.mono ?_)
    rw [recorded, hevents, DuplicateTracker.recorded, hrecord]
    exact List.subset_append_right _ _

/-- In a run of a router that starts with an empty tracker, two copies of a
message get past the screen only a window apart, or with as many other messages
recorded in between as the tracker holds. And whatever state a router is in, a
frame that names it as its source is dropped and moves nothing but the tracker
and two counters: nothing is handed over, sent or learned. -/
theorem processed_at_most_once (window capacity : Nat) (hw : 1 ≤ window) (hc : 1 ≤ capacity) :
    (∀ (s : Station) (earlier between : List Call) (frame again : Bytes) (rssi rssi' : Int16)
        (start stop : Nat) (keys : KeyRing) (p q : Packet),
      s.router.tracker = .create window capacity →
      ((earlier ++ .route frame rssi start keys :: between).filterMap Call.time? ++
        [stop]).Pairwise (· ≤ ·) →
      ((s.run earlier).router.screen frame rssi start).1 = .ok p →
      ((s.run (earlier ++ .route frame rssi start keys :: between)).router.screen again rssi'
        stop).1 = .ok q →
      p.key = q.key →
      start + window ≤ stop ∨
        Crowded capacity p.key
          ((s.run earlier).recorded (.route frame rssi start keys :: between))) ∧
    (∀ (s : Station) (frame : Bytes) (rssi : Int16) (now : Nat) (keys : KeyRing) (p : Packet),
      Packet.decode frame = .ok p → p.source = s.router.nodeId →
      ∃ reason tracker duplicates, s.route frame rssi now keys =
        (.ok (.dropped reason),
          { s with router := { s.router with
              tracker := tracker
              stats := { s.router.stats with
                received := s.router.stats.received + 1, duplicates := duplicates } } })) := by
  constructor
  · intro s earlier between frame again rssi rssi' start stop keys p q hempty htimes hfirst hsecond
      hkey
    have htime : (Call.route frame rssi start keys).time? = some start := rfl
    rw [List.filterMap_append, List.filterMap_cons_some htime, List.append_assoc,
      List.cons_append] at htimes
    obtain ⟨hbefore, hafter⟩ := between_of_pairwise htimes
    rw [run_append] at hsecond
    have htracker : (s.run earlier).router.tracker =
        (DuplicateTracker.create window capacity).run (s.events earlier) := by
      rw [run_tracker, hempty]
    have hwindow : (s.run earlier).router.tracker.window = window := by
      rw [htracker, DuplicateTracker.run_window]
      rfl
    have hcapacity : (s.run earlier).router.tracker.capacity = capacity := by
      rw [htracker, DuplicateTracker.run_capacity]
      exact Nat.max_eq_left hc
    have horderly : (s.run earlier).router.tracker.IsOrderly start := by
      rw [htracker]
      exact (DuplicateTracker.isOrderly_create window capacity 0).run (s.events earlier) hw
        (between_events s earlier hbefore)
    have hresult := crowded_of_second horderly (by rw [hwindow]; exact hw)
      (by rw [hcapacity]; exact hc) hafter hfirst hsecond hkey
    rw [hwindow, hcapacity] at hresult
    rcases hresult with hexpired | hcrowded
    · left
      omega
    · exact Or.inr hcrowded
  · intro s frame rssi now keys p hdecode hown
    obtain ⟨reason, tracker, duplicates, hscreen⟩ :=
      Router.screen_own rssi now hdecode hown
    refine ⟨reason, tracker, duplicates, ?_⟩
    rw [route, hscreen]

/-- A router whose tracker holds a single message. -/
def sampleStation : Station where
  router :=
    { nodeId := ⟨9⟩, maxHops := 7, relayEnabled := true, tracker := .create 10 1,
      table := .create 1000 4 }
  radio := {}
  draws := { source := fun _ _ => [] }

def sampleKeys : KeyRing := { provider := .software }

/-- A message for everybody. -/
def samplePacket (source : NodeId) (packetId : UInt32) : Packet :=
  .fresh source .broadcast (.application 0x20) [] packetId

def samplePacketFrame (source : NodeId) (packetId : UInt32) : Bytes :=
  Packet.sealBody (samplePacket source packetId).body

theorem decode_samplePacketFrame (source : NodeId) (packetId : UInt32) :
    Packet.decode (samplePacketFrame source packetId) = .ok (samplePacket source packetId) :=
  Packet.decode_eq_ok_iff_encode.mpr
    (Packet.encode_eq_ok_iff.mpr ⟨Topic.isCanonical_ofByte 0x20, Nat.zero_le _, rfl⟩)

theorem processed_at_most_once_crowded :
    (0 + 10 ≤ 6 ∨ Crowded 1 (samplePacket ⟨1⟩ 1).key
      ((sampleStation.run []).recorded [.route (samplePacketFrame ⟨1⟩ 1) 0 0 sampleKeys,
        .route (samplePacketFrame ⟨1⟩ 2) 0 5 sampleKeys])) ∧
    ∃ reason tracker duplicates,
      sampleStation.route (samplePacketFrame ⟨9⟩ 1) 0 0 sampleKeys =
        (.ok (.dropped reason),
          { sampleStation with router := { sampleStation.router with
              tracker := tracker
              stats := { sampleStation.router.stats with
                received := sampleStation.router.stats.received + 1
                duplicates := duplicates } } }) := by
  refine ⟨?_, ?_⟩
  · refine (processed_at_most_once 10 1 (by decide) (by decide)).1 sampleStation [] [_]
      (samplePacketFrame ⟨1⟩ 1) (samplePacketFrame ⟨1⟩ 1) 0 0 0 6 sampleKeys _ (samplePacket ⟨1⟩ 1)
      rfl (by decide) ?_ ?_ rfl
    · exact Router.screen_eq_ok_iff.mpr
        ⟨decode_samplePacketFrame ⟨1⟩ 1, by decide, by decide, by decide⟩
    · exact Router.screen_eq_ok_iff.mpr
        ⟨decode_samplePacketFrame ⟨1⟩ 1, by decide +kernel, by decide +kernel, by decide +kernel⟩
  · exact (processed_at_most_once 10 1 (by decide) (by decide)).2 sampleStation _ 0 0 sampleKeys
      (samplePacket ⟨9⟩ 1) (decode_samplePacketFrame ⟨9⟩ 1) rfl

end Station
end Meshwork
