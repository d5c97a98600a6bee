import Meshwork.Proofs.Device.Freshness
import Meshwork.Proofs.Router.Verdicts

/-!
# Frames that a device drops on arrival

A frame that the screen refuses ends with the router. Nothing else of the device takes
part, so a second copy of a message of a handshake does the handshake no harm, and a
message that was overheard is still news when it comes to this device.
-/

namespace Meshwork
set_option autoImplicit false

namespace Device

variable {d : Device} {frame : Bytes} {reason : DropReason} {now : UInt64}

theorem processFrame_eq_dropped
    (h : (d.router.screen frame d.radio.rssi now.toNat).1 = .error reason) (draws : Draws) :
    d.processFrame frame now draws =
      (.ok (.dropped reason),
        { d with router := (d.router.screen frame d.radio.rssi now.toNat).2 }, draws) := by
  unfold processFrame
  generalize d.router.screen frame d.radio.rssi now.toNat = screened at h ⊢
  rcases screened with ⟨result, router⟩
  change result = .error reason at h
  rw [h]

/-- A frame that is refused changes the router alone, by no more than the reason for the
refusal says: it is not handed over, and unless it is an echo it spoils no other frame. -/
theorem refused_frame_harmless
    (h : (d.router.screen frame d.radio.rssi now.toNat).1 = .error reason) (draws : Draws) :
    ∃ router,
      d.processFrame frame now draws =
        (.ok (.dropped reason), { d with router := router }, draws) ∧
      d.router.Refuses router reason ∧
      router.handed = d.router.handed ∧
      (reason ≠ .notNextHop → router.table = d.router.table) ∧
      (reason ≠ .ownPacket → router.tracker = d.router.tracker ∧
        ∀ other rssi later,
          (router.screen other rssi later).1 = (d.router.screen other rssi later).1) := by
  have hdropped := processFrame_eq_dropped h draws
  have hrefuses := Router.refuses_screen h
  generalize (d.router.screen frame d.radio.rssi now.toNat).2 = router at hdropped hrefuses
  obtain ⟨tracker, table, stats, hrouter, htracker, htable⟩ := hrefuses.eq
  have hnode : router.nodeId = d.router.nodeId := by rw [hrouter]
  have hhanded : router.handed = d.router.handed := by rw [hrouter]
  have hkept : reason ≠ .notNextHop → router.table = d.router.table := by
    rw [hrouter]
    exact htable
  have hunspoiled : reason ≠ .ownPacket → router.tracker = d.router.tracker := by
    rw [hrouter]
    exact htracker
  refine ⟨router, hdropped, hrefuses, hhanded, hkept, fun hecho => ⟨hunspoiled hecho, ?_⟩⟩
  intro other rssi later
  exact Router.screen_congr hnode (hunspoiled hecho) other rssi rssi later

/-- What was overheard, as it comes to the device that overheard it. -/
def handedPacket : Packet := heardPacket.copy 1 ⟨8⟩ ⟨5⟩

theorem handedPacket_fits : handedPacket.Fits := heardPacket_fits.copy 1 ⟨8⟩ ⟨5⟩

theorem refused_frame_harmless_overheard :
    (wayStart.router.screen heardPacket.frame wayStart.radio.rssi 0).1 = .error .notNextHop ∧
      ∃ router,
        wayStart.processFrame heardPacket.frame 0 wayDraws =
          (.ok (.dropped .notNextHop), { wayStart with router := router }, wayDraws) ∧
        router.tracker = wayStart.router.tracker ∧
        (router.screen handedPacket.frame 0 3).1 = .ok handedPacket := by
  have hoverheard :
      (wayStart.router.screen heardPacket.frame wayStart.radio.rssi 0).1 = .error .notNextHop := by
    rw [Router.screen_overheard heardPacket_fits.decode rfl]
  have hfresh : (wayStart.router.screen handedPacket.frame 0 3).1 = .ok handedPacket := by
    rw [Router.screen_fresh handedPacket_fits.decode rfl rfl (by decide)]
  obtain ⟨router, hdropped, _, _, _, hunspoiled⟩ :=
    @refused_frame_harmless wayStart _ _ 0 hoverheard wayDraws
  obtain ⟨htracker, hverdicts⟩ := hunspoiled (by decide)
  exact ⟨hoverheard, router, hdropped, htracker, (hverdicts _ 0 3).trans hfresh⟩

end Device
end Meshwork
