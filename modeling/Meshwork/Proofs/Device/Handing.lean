import Meshwork.Proofs.Device.Messages

/-!
# A device keeps its name and what it has handed over

Whatever is done with a device, its configuration stays, and what its application was
handed comes after all that it was handed before.
-/

namespace Meshwork
set_option autoImplicit false

namespace Device

variable {d m : Device}

/-! ## The configuration -/

theorem config_sendReply (d : Device) (reply : Option Packet) (now : UInt64) (draws : Draws) :
    (d.sendReply reply now draws).2.1.config = d.config := by
  unfold sendReply
  cases reply with
  | none => rfl
  | some p =>
    simp only [atStation]
    generalize Station.transmit { router := d.router, radio := d.radio, draws := draws } p
      now.toNat = sent
    rcases sent with ⟨result, sent⟩
    cases result with
    | error e => rfl
    | ok id => rfl

theorem config_handlePacket (d : Device) (p : Packet) (now : UInt64) (draws : Draws) :
    (d.handlePacket p now draws).2.1.config = d.config := by
  unfold handlePacket
  split
  · unfold handleInclusion
    split
    · rfl
    · simp only [asParty]
      rcases Party.handle { inclusion := d.inclusion, keys := d.keys, draws := draws } p now with
        ⟨result, after⟩
      cases result with
      | error e => rfl
      | ok reply =>
        exact config_sendReply { d with inclusion := after.inclusion, keys := after.keys } reply
          now after.draws
  · rfl

theorem config_emitEvents (d : Device) : d.emitEvents.2.config = d.config := by
  obtain ⟨storage, h⟩ := d.emitEvents_eq
  rw [h]

theorem config_processFrame (d : Device) (frame : Bytes) (now : UInt64) (draws : Draws) :
    (d.processFrame frame now draws).2.1.config = d.config := by
  have hheed : (d.heed frame now draws).config = d.config := by
    unfold heed
    rcases d.router.screen frame d.radio.rssi now.toNat with ⟨result, router⟩
    cases result with
    | error reason => rfl
    | ok p => exact config_handlePacket { d with router := router } p now draws
  rcases d.processFrame_cases frame now draws with h | ⟨h, _⟩
  · rw [h, config_emitEvents, hheed]
  · rw [h, hheed]

theorem config_poll (d : Device) (now : UInt64) (draws : Draws) :
    (d.poll now draws).2.1.config = d.config := by
  rcases d.poll_cases now draws with ⟨_, hwoken⟩ | ⟨m, frame, _, hwoken, hafter⟩
  · exact hwoken.config
  · rw [hafter, config_processFrame, hwoken.config]

theorem config_send (d : Device) (destination : NodeId) (topic : Topic) (payload : Bytes)
    (now : UInt64) (draws : Draws) :
    (d.send destination topic payload now draws).2.1.config = d.config := by
  unfold send
  split
  · rfl
  split
  · rfl
  split
  · rfl
  · rfl

theorem config_persistMembership (d : Device) : d.persistMembership.2.config = d.config := by
  obtain ⟨storage, h⟩ := persistMembership_eq d
  rw [h]

theorem config_leave (d : Device) (now : UInt64) (draws : Draws) :
    (d.leave now draws).2.1.config = d.config := by
  unfold leave
  split
  · rfl
  split
  · rfl
  · have hbye := d.config_send .broadcast .bye [] now draws
    unfold broadcast
    generalize d.send .broadcast .bye [] now draws = sent at hbye ⊢
    rcases sent with ⟨result, after, drawn⟩
    exact (config_persistMembership after.forget).trans hbye

theorem config_perform (d : Device) (operation : Operation) (draws : Draws) :
    (operation.perform (d, draws)).1.config = d.config := by
  cases operation with
  | poll now => exact d.config_poll now draws
  | processFrame frame now => exact d.config_processFrame frame now draws
  | send destination topic payload now => exact d.config_send destination topic payload now draws
  | requestInclusion now =>
    obtain ⟨_, _, _, _, _, _, h⟩ := d.requestInclusion_cases now draws
    change (d.requestInclusion now draws).2.1.config = d.config
    rw [h]
  | enableInclusion =>
    obtain ⟨_, _, _, h⟩ := d.enableInclusion_cases draws
    change (d.enableInclusion draws).2.1.config = d.config
    rw [h]
  | disableInclusion => rfl
  | provision key =>
    obtain ⟨_, _, _, h⟩ := d.provision_eq key
    change (d.provision key).2.config = d.config
    rw [h]
  | leave now => exact d.config_leave now draws
  | shutdown =>
    obtain ⟨_, h⟩ := d.shutdown_eq
    change d.shutdown.2.config = d.config
    rw [h]
  | surround radio storage => rfl

theorem config_deed (d : Device) (deed : Deed) (draws : Draws) :
    (deed.perform (d, draws)).1.config = d.config := by
  cases deed with
  | operate operation => exact d.config_perform operation draws
  | init now =>
    obtain ⟨_, _, _, h⟩ := d.init_cases now
    change (d.init now).2.config = d.config
    rw [h]
  | listen =>
    unfold Deed.perform listen Router.listen
    cases d.router.hasHandler with
    | true => rfl
    | false => rfl
  | listenInclusion =>
    unfold Deed.perform listenInclusion
    cases d.hasInclusionHandler with
    | true => rfl
    | false => rfl

/-! ## What the application was handed -/

/-- The same device later on: it may have handed over more. -/
structure Grows (d m : Device) : Prop where
  config : m.config = d.config
  handed : d.router.handed <+: m.router.handed

theorem Grows.refl (d : Device) : d.Grows d := ⟨rfl, List.prefix_refl _⟩

theorem Grows.trans {m' : Device} (h : d.Grows m) (h' : m.Grows m') : d.Grows m' :=
  ⟨h'.config.trans h.config, h.handed.trans h'.handed⟩

theorem grows_of_eq (hconfig : m.config = d.config) (hrouter : m.router = d.router) :
    d.Grows m := by
  refine ⟨hconfig, [], ?_⟩
  rw [hrouter, List.append_nil]

theorem grows_deed (d : Device) (deed : Deed) (draws : Draws) :
    d.Grows (deed.perform (d, draws)).1 := by
  refine ⟨d.config_deed deed draws, ?_⟩
  rcases d.deed_cases draws deed with hquiet | ⟨p, key, text, _, _, _, _, _, hhanded⟩
  · refine ⟨[], ?_⟩
    rw [hquiet.handed, List.append_nil]
  · rw [hhanded]
    exact List.prefix_append _ _

theorem grows_operate (d : Device) (operation : Operation) (draws : Draws) :
    d.Grows (operation.perform (d, draws)).1 :=
  d.grows_deed (.operate operation) draws

end Device
end Meshwork
