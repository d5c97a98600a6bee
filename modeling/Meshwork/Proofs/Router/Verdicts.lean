import Meshwork.Proofs.Router.Learning

/-!
# What the screen of a router makes of a frame

There are five verdicts. A frame that does not pass is counted, and besides that it leaves
one trace at most: an echo is recorded, and a frame on its way through another relay teaches
routes. The verdict itself depends on the node and on its tracker only.
-/

namespace Meshwork
set_option autoImplicit false

namespace Router

variable {r r' : Router} {p : Packet} {frame : Bytes} {rssi : Int16} {now : Nat}
variable {reason : DropReason}

theorem learn_eq (r : Router) (p : Packet) (rssi : Int16) (now : Nat) :
    ∃ learned, r.learn p rssi now =
      { r with table := (r.learn p rssi now).table, stats.learned := learned } := by
  have hsource : ∃ table learned, r.learnSource p rssi now =
      { r with table := table, stats.learned := learned } := by
    unfold learnSource
    split
    · obtain ⟨learned, h⟩ := r.offer_eq p.source p.lastHop (p.hopCount + 1) rssi now
      exact ⟨_, learned, h⟩
    · exact ⟨r.table, r.stats.learned, rfl⟩
  obtain ⟨table, learned, h⟩ := hsource
  unfold learn learnRelay
  rw [h]
  split
  · obtain ⟨learned', h⟩ := offer_eq { r with table := table, stats.learned := learned } p.lastHop
      p.lastHop 1 rssi now
    rw [h]
    exact ⟨learned', rfl⟩
  · exact ⟨learned, rfl⟩

theorem overhear_eq (r : Router) (p : Packet) (rssi : Int16) (now : Nat) :
    ∃ learned, r.overhear p rssi now =
      { r with table := (r.overhear p rssi now).table, stats.learned := learned } := by
  unfold overhear
  split
  · exact r.learn_eq p rssi now
  · exact ⟨r.stats.learned, rfl⟩

/-- The router that has let a packet pass. -/
def accept (r : Router) (p : Packet) (rssi : Int16) (now : Nat) : Router :=
  { r with
    tracker := r.tracker.record p.key now
    stats.received := r.stats.received + 1 : Router }.learn p rssi now

theorem accept_eq (r : Router) (p : Packet) (rssi : Int16) (now : Nat) :
    ∃ stats, (∃ learned, stats =
        { r.stats with received := r.stats.received + 1, learned := learned }) ∧
      r.accept p rssi now =
        { r with
          tracker := r.tracker.record p.key now
          table := (r.accept p rssi now).table
          stats := stats } := by
  unfold accept
  obtain ⟨learned, h⟩ := learn_eq
    { r with
      tracker := r.tracker.record p.key now
      stats.received := r.stats.received + 1 } p rssi now
  exact ⟨_, ⟨learned, rfl⟩, h⟩

theorem screen_fresh (hdecode : Packet.decode frame = .ok p) (hmine : r.isOverheard p = false)
    (hnew : r.tracker.contains p.key now = false) (hother : p.source ≠ r.nodeId) (rssi : Int16) :
    r.screen frame rssi now = (.ok p, r.accept p rssi now) := by
  unfold screen screenPacket
  simp only [hdecode]
  rw [show ({ r with stats.received := r.stats.received + 1 } : Router).isOverheard p = false from
    hmine, DuplicateTracker.observe_new hnew]
  simp only [Bool.false_eq_true, if_false, if_neg hother]
  rfl

theorem screen_duplicate (hdecode : Packet.decode frame = .ok p) (hmine : r.isOverheard p = false)
    (hknown : r.tracker.contains p.key now = true) (rssi : Int16) :
    r.screen frame rssi now = (.error .duplicate,
      { r with
        stats.received := r.stats.received + 1
        stats.duplicates := r.stats.duplicates + 1 }) := by
  unfold screen screenPacket
  simp only [hdecode]
  rw [show ({ r with stats.received := r.stats.received + 1 } : Router).isOverheard p = false from
    hmine, DuplicateTracker.observe_known hknown]
  rfl

theorem screen_echo (hdecode : Packet.decode frame = .ok p) (hmine : r.isOverheard p = false)
    (hnew : r.tracker.contains p.key now = false) (hown : p.source = r.nodeId) (rssi : Int16) :
    r.screen frame rssi now = (.error .ownPacket,
      { r with
        tracker := r.tracker.record p.key now
        stats.received := r.stats.received + 1 }) := by
  unfold screen screenPacket
  simp only [hdecode]
  rw [show ({ r with stats.received := r.stats.received + 1 } : Router).isOverheard p = false from
    hmine, DuplicateTracker.observe_new hnew]
  simp only [Bool.false_eq_true, if_false, if_pos hown]

theorem screen_overheard (hdecode : Packet.decode frame = .ok p) (hpassing : r.isOverheard p = true)
    (rssi : Int16) (now : Nat) :
    r.screen frame rssi now = (.error .notNextHop,
      { r with stats.received := r.stats.received + 1 : Router }.overhear p rssi now) := by
  unfold screen screenPacket
  simp only [hdecode]
  rw [show ({ r with stats.received := r.stats.received + 1 } : Router).isOverheard p = true from
    hpassing]
  rfl

theorem overhear_known (hknown : r.tracker.contains p.key now = true) (rssi : Int16) :
    r.overhear p rssi now = r := by
  unfold overhear
  rw [hknown]
  exact if_neg fun h => Bool.false_ne_true h.2

/-! ## Verdicts -/

/-- The verdict of the screen on a frame, and the router after it. -/
inductive Screened (r : Router) (frame : Bytes) (rssi : Int16) (now : Nat) :
    Except DropReason Packet × Router → Prop where
  | damaged (e : PacketError) (hdecode : Packet.decode frame = .error e) :
      Screened r frame rssi now (.error (.ofDecoding e),
        { r with
          stats.received := r.stats.received + 1
          stats.corrupted := r.stats.corrupted + 1 })
  | overheard (p : Packet) (hdecode : Packet.decode frame = .ok p)
      (hpassing : r.isOverheard p = true) :
      Screened r frame rssi now (.error .notNextHop,
        { r with stats.received := r.stats.received + 1 : Router }.overhear p rssi now)
  | duplicate (p : Packet) (hdecode : Packet.decode frame = .ok p)
      (hmine : r.isOverheard p = false) (hknown : r.tracker.contains p.key now = true) :
      Screened r frame rssi now (.error .duplicate,
        { r with
          stats.received := r.stats.received + 1
          stats.duplicates := r.stats.duplicates + 1 })
  | echo (p : Packet) (hdecode : Packet.decode frame = .ok p) (hmine : r.isOverheard p = false)
      (hnew : r.tracker.contains p.key now = false) (hown : p.source = r.nodeId) :
      Screened r frame rssi now (.error .ownPacket,
        { r with
          tracker := r.tracker.record p.key now
          stats.received := r.stats.received + 1 })
  | passed (p : Packet) (hdecode : Packet.decode frame = .ok p) (hmine : r.isOverheard p = false)
      (hnew : r.tracker.contains p.key now = false) (hother : p.source ≠ r.nodeId) :
      Screened r frame rssi now (.ok p, r.accept p rssi now)

theorem screened (r : Router) (frame : Bytes) (rssi : Int16) (now : Nat) :
    r.Screened frame rssi now (r.screen frame rssi now) := by
  cases hdecode : Packet.decode frame with
  | error e =>
    unfold screen
    rw [hdecode]
    exact .damaged e hdecode
  | ok p =>
    cases hpassing : r.isOverheard p with
    | true =>
      rw [screen_overheard hdecode hpassing]
      exact .overheard p hdecode hpassing
    | false =>
      cases hknown : r.tracker.contains p.key now with
      | true =>
        rw [screen_duplicate hdecode hpassing hknown]
        exact .duplicate p hdecode hpassing hknown
      | false =>
        by_cases hown : p.source = r.nodeId
        · rw [screen_echo hdecode hpassing hknown hown]
          exact .echo p hdecode hpassing hknown hown
        · rw [screen_fresh hdecode hpassing hknown hown]
          exact .passed p hdecode hpassing hknown hown

/-! ## What a refused frame leaves -/

/-- All that a frame leaves in a router that refuses it for this reason. -/
def Refuses (r r' : Router) : DropReason → Prop
  | .invalidLength | .packetCorrupted =>
    r' = { r with
      stats.received := r.stats.received + 1
      stats.corrupted := r.stats.corrupted + 1 }
  | .duplicate =>
    r' = { r with
      stats.received := r.stats.received + 1
      stats.duplicates := r.stats.duplicates + 1 }
  | .notNextHop => ∃ table learned,
    r' = { r with
      table := table
      stats.received := r.stats.received + 1
      stats.learned := learned }
  | .ownPacket => ∃ tracker,
    r' = { r with tracker := tracker, stats.received := r.stats.received + 1 }
  | _ => False

theorem refuses_screen (h : (r.screen frame rssi now).1 = .error reason) :
    r.Refuses (r.screen frame rssi now).2 reason := by
  have hscreened := r.screened frame rssi now
  generalize r.screen frame rssi now = result at h hscreened ⊢
  cases hscreened with
  | damaged e hdecode =>
    cases h
    cases e with
    | _ => rfl
  | overheard p hdecode hpassing =>
    cases h
    obtain ⟨learned, hlearned⟩ := overhear_eq
      { r with stats.received := r.stats.received + 1 } p rssi now
    exact ⟨_, learned, hlearned⟩
  | duplicate p hdecode hmine hknown =>
    cases h
    rfl
  | echo p hdecode hmine hnew hown =>
    cases h
    exact ⟨_, rfl⟩
  | passed p hdecode hmine hnew hother => cases h

/-- Hops are spent behind the screen. -/
theorem ne_maxHops_of_screen (h : (r.screen frame rssi now).1 = .error reason) :
    reason ≠ .maxHops := by
  rintro rfl
  exact refuses_screen h

/-- Only an echo is recorded, and only a frame on its way elsewhere teaches routes. -/
theorem Refuses.eq (h : r.Refuses r' reason) :
    ∃ tracker table stats,
      r' = { r with tracker := tracker, table := table, stats := stats } ∧
        (reason ≠ .ownPacket → tracker = r.tracker) ∧
        (reason ≠ .notNextHop → table = r.table) := by
  cases reason with
  | notNextHop =>
    obtain ⟨table, learned, h⟩ := h
    exact ⟨r.tracker, table, _, h, fun _ => rfl, fun hpassing => absurd rfl hpassing⟩
  | ownPacket =>
    obtain ⟨tracker, h⟩ := h
    exact ⟨tracker, r.table, _, h, fun hecho => absurd rfl hecho, fun _ => rfl⟩
  | invalidLength | packetCorrupted | duplicate =>
    exact ⟨r.tracker, r.table, _, h, fun _ => rfl, fun _ => rfl⟩
  | maxHops | relayDisabled | unauthenticated | unsupportedTopic | handshakeTopic |
      inclusionRejected => exact h.elim

theorem isOverheard_congr (hnode : r'.nodeId = r.nodeId) (p : Packet) :
    r'.isOverheard p = r.isOverheard p := by
  unfold isOverheard
  rw [hnode]

/-- Routers of one node with one tracker let the same frames pass, and refuse the others for
the same reasons. -/
theorem screen_congr (hnode : r'.nodeId = r.nodeId) (htracker : r'.tracker = r.tracker)
    (frame : Bytes) (rssi rssi' : Int16) (now : Nat) :
    (r'.screen frame rssi' now).1 = (r.screen frame rssi now).1 := by
  have hoverheard := isOverheard_congr hnode
  have hscreened := r.screened frame rssi now
  generalize r.screen frame rssi now = result at hscreened ⊢
  cases hscreened with
  | damaged e hdecode =>
    unfold screen
    rw [hdecode]
  | overheard p hdecode hpassing =>
    rw [screen_overheard hdecode ((hoverheard p).trans hpassing)]
  | duplicate p hdecode hmine hknown =>
    rw [screen_duplicate hdecode ((hoverheard p).trans hmine) (htracker ▸ hknown)]
  | echo p hdecode hmine hnew hown =>
    rw [screen_echo hdecode ((hoverheard p).trans hmine) (htracker ▸ hnew) (hown.trans hnode.symm)]
  | passed p hdecode hmine hnew hother =>
    rw [screen_fresh hdecode ((hoverheard p).trans hmine) (htracker ▸ hnew)
      (fun hown => hother (hown.trans hnode))]

end Router
end Meshwork
