import Meshwork.Proofs.Duplicates.Retention
import Meshwork.Router

/-!
# The screen of a router

What gets past the screen is a whole packet of another node, which is not on its
way through another relay and was not recorded within the window.
-/

namespace Meshwork
set_option autoImplicit false

namespace Router

theorem offer_tracker (r : Router) (destination nextHop : NodeId) (hopCount : UInt8) (rssi : Int16)
    (now : Nat) : (r.offer destination nextHop hopCount rssi now).tracker = r.tracker := by
  unfold offer
  split <;> rfl

theorem learn_tracker (r : Router) (p : Packet) (rssi : Int16) (now : Nat) :
    (r.learn p rssi now).tracker = r.tracker := by
  have hsource : (r.learnSource p rssi now).tracker = r.tracker := by
    unfold learnSource
    split
    · exact offer_tracker r _ _ _ rssi now
    · rfl
  unfold learn learnRelay
  split
  · exact (offer_tracker _ _ _ _ rssi now).trans hsource
  · exact hsource

theorem overhear_tracker (r : Router) (p : Packet) (rssi : Int16) (now : Nat) :
    (r.overhear p rssi now).tracker = r.tracker := by
  unfold overhear
  split
  · exact learn_tracker r p rssi now
  · rfl

theorem screenPacket_tracker (r : Router) (p : Packet) (rssi : Int16) (now : Nat) :
    (r.screenPacket p rssi now).2.tracker =
      r.tracker.run (if r.isOverheard p then [] else [.observe p.key now]) := by
  unfold screenPacket
  split
  · exact overhear_tracker r p rssi now
  · change _ = (r.tracker.observe p.key now).2
    rcases DuplicateTracker.observe_eq r.tracker p.key now with ⟨_, h⟩ | ⟨_, h⟩
    · rw [h]
    · rw [h]
      simp only
      split
      · rfl
      · exact learn_tracker _ p rssi now

theorem screenPacket_eq_ok_iff {r : Router} {p q : Packet} {rssi : Int16} {now : Nat} :
    (r.screenPacket p rssi now).1 = .ok q ↔
      p = q ∧ r.isOverheard p = false ∧ r.tracker.contains p.key now = false ∧
        p.source ≠ r.nodeId := by
  unfold screenPacket
  cases r.isOverheard p with
  | true => exact ⟨fun h => (nomatch h), fun ⟨_, h, _⟩ => (nomatch h)⟩
  | false =>
    rcases DuplicateTracker.observe_eq r.tracker p.key now with ⟨hseen, hobs⟩ | ⟨hnew, hobs⟩
    · rw [hobs, hseen]
      exact ⟨fun h => (nomatch h), fun ⟨_, _, h, _⟩ => (nomatch h)⟩
    · rw [hobs]
      by_cases hown : p.source = r.nodeId
      · simp only [Bool.false_eq_true, if_false, if_pos hown]
        exact ⟨fun h => (nomatch h), fun ⟨_, _, _, h⟩ => absurd hown h⟩
      · simp only [Bool.false_eq_true, if_false, if_neg hown]
        exact ⟨fun h => ⟨Except.ok.inj h, trivial, hnew, hown⟩,
          fun ⟨h, _⟩ => congrArg Except.ok h⟩

theorem screen_eq_ok_iff {r : Router} {frame : Bytes} {rssi : Int16} {now : Nat} {p : Packet} :
    (r.screen frame rssi now).1 = .ok p ↔
      Packet.decode frame = .ok p ∧ r.isOverheard p = false ∧
        r.tracker.contains p.key now = false ∧ p.source ≠ r.nodeId := by
  unfold screen
  cases Packet.decode frame with
  | error e => exact ⟨fun h => (nomatch h), fun ⟨h, _⟩ => (nomatch h)⟩
  | ok q =>
    refine screenPacket_eq_ok_iff.trans ⟨?_, ?_⟩
    · rintro ⟨rfl, hrest⟩
      exact ⟨rfl, hrest⟩
    · rintro ⟨h, hrest⟩
      obtain rfl := Except.ok.inj h
      exact ⟨rfl, hrest⟩

/-- A frame of this node is dropped and leaves no trace but in the tracker and
in two counters. -/
theorem screen_own {r : Router} {frame : Bytes} {p : Packet} (rssi : Int16) (now : Nat)
    (hdecode : Packet.decode frame = .ok p) (hown : p.source = r.nodeId) :
    ∃ reason tracker duplicates, r.screen frame rssi now =
      (.error reason,
        { r with
          tracker := tracker
          stats := { r.stats with
            received := r.stats.received + 1, duplicates := duplicates } }) := by
  unfold screen screenPacket
  simp only [hdecode]
  split
  · refine ⟨.notNextHop, r.tracker, r.stats.duplicates, ?_⟩
    rw [overhear, if_neg (fun h => h.1 hown)]
  · rcases DuplicateTracker.observe_eq r.tracker p.key now with ⟨_, hobs⟩ | ⟨_, hobs⟩
    · rw [hobs]
      exact ⟨.duplicate, r.tracker, r.stats.duplicates + 1, rfl⟩
    · rw [hobs]
      exact ⟨.ownPacket, r.tracker.record p.key now, r.stats.duplicates, rfl⟩

end Router
end Meshwork
