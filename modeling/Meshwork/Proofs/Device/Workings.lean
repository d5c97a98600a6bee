import Meshwork.Proofs.Device.Reachable
import Meshwork.Proofs.Station.Following

/-!
# What a device has its router do

Before it listens a device forgets what is past its time, and what it hears is screened.
Everything else that an operation does with the router and the radio is one piece of
work: a packet is sent, a message made, or a packet handled that has passed the screen.
-/

namespace Meshwork
set_option autoImplicit false

theorem Radio.outbox_receive {r r' : Radio} {frame : Option Bytes}
    (h : r.receive = .ok (frame, r')) : r'.outbox = r.outbox := by
  unfold receive at h
  split at h
  · cases h
  · split at h
    · cases h
      rfl
    · cases h
      rfl

namespace Device

variable {d m : Device} {frame : Bytes} {now time : UInt64} {draws : Draws} {r : Router}
  {radio : Radio}

/-- The time that an operation is told, if any. -/
def Operation.time? : Operation → Option UInt64
  | poll now => some now
  | processFrame _ now => some now
  | send _ _ _ now => some now
  | requestInclusion now => some now
  | leave now => some now
  | _ => none

/-- The radio that a deed finds: surroundings may exchange it. -/
def radioFor (d : Device) : Deed → Radio
  | .operate (.surround radio _) => radio
  | _ => d.radio

/-- The router that an operation puts to work, swept and taught by what was heard. -/
def ready (d : Device) (operation : Operation) : Router :=
  match d.hearing operation, operation with
  | some (m, frame, now), _ => (m.router.screen frame m.radio.rssi now.toNat).2
  | none, .poll now => d.router.sweep now.toNat
  | none, _ => d.router

/-- A device is left with what one piece of work has made of this router and this radio. -/
def Worked (r : Router) (radio : Radio) (m : Device) : Prop :=
  ∃ (draws : Draws) (work : Station.Work),
    m.router = (work.perform { router := r, radio := radio, draws := draws }).router ∧
      m.radio = (work.perform { router := r, radio := radio, draws := draws }).radio

theorem Worked.of_eq {m' : Device} (h : Worked r radio m) (hrouter : m'.router = m.router)
    (hradio : m'.radio = m.radio) : Worked r radio m' := by
  obtain ⟨draws, work, hrouter', hradio'⟩ := h
  exact ⟨draws, work, hrouter.trans hrouter', hradio.trans hradio'⟩

theorem worked_rest (draws : Draws) (hrouter : m.router = r) (hradio : m.radio = radio) :
    Worked r radio m :=
  ⟨draws, .rest, hrouter, hradio⟩

/-! ## Frames -/

theorem worked_sendReply (d : Device) (reply : Option Packet) (now : UInt64) (draws : Draws) :
    Worked d.router d.radio (d.sendReply reply now draws).2.1 := by
  unfold sendReply
  cases reply with
  | none => exact worked_rest draws rfl rfl
  | some p =>
    refine ⟨draws, .transmit p now.toNat, ?_⟩
    simp only [atStation, Station.Work.perform]
    generalize Station.transmit { router := d.router, radio := d.radio, draws := draws } p
      now.toNat = sent
    rcases sent with ⟨result, sent⟩
    cases result with
    | error e => exact ⟨rfl, rfl⟩
    | ok id => exact ⟨rfl, rfl⟩

theorem worked_handlePacket (d : Device) (p : Packet) (now : UInt64) (draws : Draws) :
    Worked d.router d.radio (d.handlePacket p now draws).2.1 := by
  unfold handlePacket
  split
  · unfold handleInclusion
    split
    · exact worked_rest draws rfl rfl
    · simp only [asParty]
      rcases Party.handle { inclusion := d.inclusion, keys := d.keys, draws := draws } p now with
        ⟨result, after⟩
      cases result with
      | error e => exact worked_rest draws rfl rfl
      | ok reply =>
        exact worked_sendReply { d with inclusion := after.inclusion, keys := after.keys } reply
          now after.draws
  · exact ⟨draws, .dispatch p now.toNat d.keys, rfl, rfl⟩

theorem worked_processFrame (d : Device) (frame : Bytes) (now : UInt64) (draws : Draws) :
    Worked (d.router.screen frame d.radio.rssi now.toNat).2 d.radio
      (d.processFrame frame now draws).2.1 := by
  have hheed : Worked (d.router.screen frame d.radio.rssi now.toNat).2 d.radio
      (d.heed frame now draws) := by
    unfold heed
    rcases d.router.screen frame d.radio.rssi now.toNat with ⟨result, router⟩
    cases result with
    | error reason => exact worked_rest draws rfl rfl
    | ok p => exact worked_handlePacket { d with router := router } p now draws
  rcases d.processFrame_cases frame now draws with h | ⟨h, _⟩
  · rw [h]
    exact hheed.of_eq (router_emitEvents _) (radio_emitEvents _)
  · rw [h]
    exact hheed

/-! ## Polls -/

/-- The device that hears a frame in a poll has been swept. -/
theorem hearing_poll (h : d.hearing (.poll now) = some (m, frame, time)) :
    ∃ radio, m = { (d.expire now).emitEvents.2 with radio := radio } ∧
      radio.outbox = d.radio.outbox ∧ time = now := by
  have hpolled := d.polled now { source := fun _ _ => [] }
  generalize d.poll now _ = result at hpolled
  cases hpolled with
  | failed e hnone =>
    rw [h] at hnone
    cases hnone
  | silent radio hnone hreceive =>
    rw [h] at hnone
    cases hnone
  | heard m' heard radio hm hsome hreceive =>
    rw [h] at hsome
    cases hsome
    exact ⟨radio, hm, Radio.outbox_receive hreceive, rfl⟩

/-- The router of a poll has been swept, and then has heard one frame at most. -/
theorem ready_poll (d : Device) (now : UInt64) :
    d.ready (.poll now) = d.router.sweep now.toNat ∨
      ∃ frame rssi,
        d.ready (.poll now) = ((d.router.sweep now.toNat).screen frame rssi now.toNat).2 := by
  unfold ready
  rcases hheard : d.hearing (.poll now) with _ | ⟨m, frame, time⟩
  · exact Or.inl rfl
  · obtain ⟨radio, hm, _, rfl⟩ := hearing_poll hheard
    have hrouter : m.router = d.router.sweep time.toNat := by
      rw [hm]
      exact router_emitEvents _
    exact Or.inr ⟨frame, m.radio.rssi, by rw [← hrouter]⟩

theorem worked_poll (d : Device) (now : UInt64) (draws : Draws) :
    ∃ radio, radio.outbox = d.radio.outbox ∧
      Worked (d.ready (.poll now)) radio (d.poll now draws).2.1 := by
  have hrouter : (d.expire now).emitEvents.2.router = d.router.sweep now.toNat :=
    router_emitEvents _
  have hradio : (d.expire now).emitEvents.2.radio = d.radio := radio_emitEvents _
  have hpolled := d.polled now draws
  unfold ready
  generalize d.poll now draws = result at hpolled ⊢
  cases hpolled with
  | failed e hnone =>
    rw [hnone]
    exact ⟨d.radio, rfl, worked_rest draws hrouter hradio⟩
  | silent radio hnone hreceive =>
    rw [hnone]
    exact ⟨radio, Radio.outbox_receive hreceive, worked_rest draws hrouter rfl⟩
  | heard m frame radio hm hsome hreceive =>
    rw [hsome]
    subst hm
    exact ⟨radio, Radio.outbox_receive hreceive, worked_processFrame _ frame now draws⟩

/-! ## Messages of the device -/

theorem worked_send (d : Device) (destination : NodeId) (topic : Topic) (payload : Bytes)
    (now : UInt64) (draws : Draws) :
    Worked d.router d.radio (d.send destination topic payload now draws).2.1 := by
  unfold send
  split
  · exact worked_rest draws rfl rfl
  split
  · exact worked_rest draws rfl rfl
  split
  · exact worked_rest draws rfl rfl
  · exact ⟨draws, .originate destination topic payload now.toNat d.keys, rfl, rfl⟩

theorem worked_requestInclusion (d : Device) (now : UInt64) (draws : Draws) :
    Worked d.router d.radio (d.requestInclusion now draws).2.1 := by
  unfold requestInclusion
  simp only [asParty]
  rcases Party.request { inclusion := d.inclusion, keys := d.keys, draws := draws } now with
    ⟨result, after⟩
  cases result with
  | error e => exact worked_rest draws rfl rfl
  | ok p =>
    refine ⟨after.draws, .transmit p now.toNat, ?_⟩
    simp only [atStation, Station.Work.perform]
    generalize Station.transmit
      { router := d.router, radio := d.radio, draws := after.draws } p now.toNat = sent
    rcases sent with ⟨sent, station⟩
    cases sent with
    | error e => exact ⟨rfl, rfl⟩
    | ok id => exact ⟨rfl, rfl⟩

theorem worked_leave (d : Device) (now : UInt64) (draws : Draws) :
    Worked d.router d.radio (d.leave now draws).2.1 := by
  unfold leave
  split
  · exact worked_rest draws rfl rfl
  split
  · exact worked_rest draws rfl rfl
  · have hbye := d.worked_send .broadcast .bye [] now draws
    change Worked d.router d.radio
      (d.broadcast .bye [] now draws).2.1.forget.persistMembership.2
    exact hbye.of_eq (router_persistMembership _) (radio_persistMembership _)

/-- Whatever operation this is, all that it does with the router that has been swept and
taught is one piece of work. -/
theorem worked (d : Device) (operation : Operation) (draws : Draws) :
    ∃ radio, radio.outbox = (d.radioFor (.operate operation)).outbox ∧
      Worked (d.ready operation) radio (operation.perform (d, draws)).1 := by
  cases operation with
  | poll now => exact d.worked_poll now draws
  | processFrame frame now => exact ⟨d.radio, rfl, d.worked_processFrame frame now draws⟩
  | send destination topic payload now =>
    exact ⟨d.radio, rfl, d.worked_send destination topic payload now draws⟩
  | requestInclusion now => exact ⟨d.radio, rfl, d.worked_requestInclusion now draws⟩
  | enableInclusion =>
    obtain ⟨accepting, keys, storage, henable⟩ := d.enableInclusion_cases draws
    refine ⟨d.radio, rfl, ?_⟩
    change Worked d.router d.radio (d.enableInclusion draws).2.1
    rw [henable]
    exact worked_rest draws rfl rfl
  | disableInclusion => exact ⟨d.radio, rfl, worked_rest draws rfl rfl⟩
  | provision key =>
    refine ⟨d.radio, rfl, ?_⟩
    obtain ⟨inclusion, keys, storage, hprovision⟩ := d.provision_eq key
    change Worked d.router d.radio (d.provision key).2
    rw [hprovision]
    exact worked_rest draws rfl rfl
  | leave now => exact ⟨d.radio, rfl, d.worked_leave now draws⟩
  | shutdown =>
    obtain ⟨storage, hshutdown⟩ := d.shutdown_eq
    refine ⟨d.radio, rfl, ?_⟩
    change Worked d.router d.radio d.shutdown.2
    rw [hshutdown]
    exact worked_rest draws rfl rfl
  | surround radio storage => exact ⟨radio, rfl, worked_rest draws rfl rfl⟩

/-! ## What becomes of the router -/

theorem stamps_ready (d : Device) (operation : Operation) (now : UInt64) :
    d.router.Stamps (operation.time?.getD now).toNat (d.ready operation) := by
  cases operation with
  | poll time =>
    have hswept := (d.router.forgets_sweep time.toNat).stamps time.toNat
    change d.router.Stamps time.toNat (d.ready (.poll time))
    rcases d.ready_poll time with h | ⟨frame, rssi, h⟩
    · rw [h]
      exact hswept
    · rw [h]
      exact hswept.trans ((d.router.sweep time.toNat).stamps_screen frame rssi time.toNat)
  | processFrame frame time => exact d.router.stamps_screen frame d.radio.rssi time.toNat
  | _ => exact Router.Stamps.refl _ _

/-- The routes that are new after an operation were heard of at its time. -/
theorem stamps_perform (operation : Operation) (now : UInt64) :
    d.router.Stamps (operation.time?.getD now).toNat (operation.perform (d, draws)).1.router := by
  obtain ⟨radio, _, drawn, work, hrouter, _⟩ := d.worked operation draws
  have hworked := Station.forgets_work
    { router := d.ready operation, radio := radio, draws := drawn } work
  rw [hrouter]
  exact (d.stamps_ready operation now).trans (hworked.stamps _)

end Device
end Meshwork
