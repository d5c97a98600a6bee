import Meshwork.Proofs.Device.Runs
import Meshwork.Proofs.Handshake.Fields
import Meshwork.Proofs.Packet.Codec
import Meshwork.Proofs.Station.Deliveries

/-!
# What a device does with a frame

A frame is handled first, and then the application is told of the handshakes that
ended. The frame of a poll is handled by the device that is left when what is past
its time has been forgotten.
-/

namespace Meshwork
set_option autoImplicit false

namespace Device

variable {d m : Device} {frame : Bytes} {now : UInt64} {draws : Draws} {p : Packet}

/-! ## Telling the application -/

theorem persistMembership_eq (d : Device) :
    ∃ storage, d.persistMembership.2 = { d with storage := storage } := by
  unfold persistMembership
  split
  · exact ⟨_, rfl⟩
  · split
    · exact ⟨_, rfl⟩
    · exact ⟨_, rfl⟩

theorem router_persistMembership (d : Device) : d.persistMembership.2.router = d.router := by
  obtain ⟨storage, h⟩ := d.persistMembership_eq
  rw [h]

theorem radio_persistMembership (d : Device) : d.persistMembership.2.radio = d.radio := by
  obtain ⟨storage, h⟩ := d.persistMembership_eq
  rw [h]

theorem shutdown_eq (d : Device) : ∃ storage, d.shutdown.2 = { d with storage := storage } := by
  obtain ⟨storage, hpersist⟩ := d.persistMembership_eq
  unfold shutdown
  generalize d.persistMembership = persisted at hpersist ⊢
  rcases persisted with ⟨result, after⟩
  change after = _ at hpersist
  rw [hpersist]
  cases result with
  | error e => exact ⟨storage, rfl⟩
  | ok done =>
    simp only
    split
    · exact ⟨_, rfl⟩
    · exact ⟨_, rfl⟩

theorem provision_eq (d : Device) (key : MeshKey) : ∃ inclusion keys storage,
    (d.provision key).2 =
      { d with inclusion := inclusion, keys := keys, storage := storage } := by
  unfold provision
  split
  · exact ⟨d.inclusion, d.keys, d.storage, rfl⟩
  · rename_i keys _
    obtain ⟨storage, hpersist⟩ := persistMembership_eq
      { d with keys := keys, inclusion := d.inclusion.restore .included }
    exact ⟨_, keys, storage, hpersist⟩

/-- What the application has been told when it is told these results as well. -/
def toldOf (d : Device) (results : List InclusionEvent) : List InclusionEvent :=
  if d.hasInclusionHandler then d.notified ++ results else d.notified

theorem toldOf_nil (d : Device) : d.toldOf [] = d.notified := by
  unfold toldOf
  split
  · exact List.append_nil _
  · rfl

/-- The queue is emptied, and nothing else is touched but what the application
has been told and what is stored. -/
theorem emitEvents_eq (d : Device) :
    ∃ storage, d.emitEvents.2 =
      { d with
        inclusion := d.inclusion.drain.2
        notified := d.toldOf d.inclusion.events
        storage := storage } := by
  unfold emitEvents
  split
  · rename_i heq
    have hnone : d.inclusion.events = [] := congrArg Prod.fst heq
    refine ⟨d.storage, ?_⟩
    have hsame : d.inclusion.drain.2 = d.inclusion := by
      unfold Inclusion.drain
      rw [← hnone]
    rw [hsame, hnone, toldOf_nil]
  · rename_i events inclusion _ heq
    obtain ⟨hevents, hinclusion⟩ := Prod.mk.inj heq
    subst hevents hinclusion
    exact persistMembership_eq _

theorem router_emitEvents (d : Device) : d.emitEvents.2.router = d.router := by
  obtain ⟨storage, h⟩ := d.emitEvents_eq
  rw [h]

theorem radio_emitEvents (d : Device) : d.emitEvents.2.radio = d.radio := by
  obtain ⟨storage, h⟩ := d.emitEvents_eq
  rw [h]

theorem emitEvents_of_quiet (h : d.inclusion.events = []) : d.emitEvents = (.ok (), d) := by
  unfold emitEvents Inclusion.drain
  rw [h]

/-! ## The frame -/

/-- The device with a frame handled and the results still in its queue. -/
def heed (d : Device) (frame : Bytes) (now : UInt64) (draws : Draws) : Device :=
  match d.router.screen frame d.radio.rssi now.toNat with
  | (.error _, router) => { d with router := router }
  | (.ok p, router) => ({ d with router := router : Device }.handlePacket p now draws).2.1

theorem processFrame_cases (d : Device) (frame : Bytes) (now : UInt64) (draws : Draws) :
    (d.processFrame frame now draws).2.1 = (d.heed frame now draws).emitEvents.2 ∨
      (d.processFrame frame now draws).2.1 = d.heed frame now draws ∧
        (d.heed frame now draws).inclusion = d.inclusion := by
  unfold processFrame heed
  rcases d.router.screen frame d.radio.rssi now.toNat with ⟨screened, router⟩
  cases screened with
  | error reason => exact Or.inr ⟨rfl, rfl⟩
  | ok p =>
    left
    simp only
    rcases ({ d with router := router } : Device).handlePacket p now draws with
      ⟨outcome, after, drawn⟩
    simp only
    rcases after.emitEvents with ⟨told, final⟩
    cases told with
    | error e => rfl
    | ok done => rfl

/-- A device with nothing in its queue tells its application of what the frame
has ended, and of nothing else. -/
theorem processFrame_eq (hquiet : d.inclusion.events = []) :
    (d.processFrame frame now draws).2.1 = (d.heed frame now draws).emitEvents.2 := by
  rcases d.processFrame_cases frame now draws with h | ⟨h, hsame⟩
  · exact h
  · rw [h, emitEvents_of_quiet (by rw [hsame, hquiet])]

/-- What handling a frame changes of a device besides its radio. -/
inductive Heeded (d : Device) (frame : Bytes) (now : UInt64) (draws : Draws) (m : Device) :
    Prop where
  /-- The frame is dropped or routed. -/
  | routed (hinclusion : m.inclusion = d.inclusion) (hkeys : m.keys = d.keys)
      (hrouter : d.router.Quiet m.router ∨
        ∃ p, Packet.decode frame = .ok p ∧ d.router.Hands p d.keys m.router)
  /-- The frame carries a message of a handshake. -/
  | handshake (p : Packet) (result : Except InclusionError (Option Packet)) (after : Party)
      (hdecode : Packet.decode frame = .ok p)
      (hhandled : Party.Handled { inclusion := d.inclusion, keys := d.keys, draws := draws } p now
        result after)
      (hinclusion : m.inclusion = after.inclusion) (hkeys : m.keys = after.keys)
      (hrouter : d.router.Quiet m.router)

theorem quiet_sendReply (d : Device) (reply : Option Packet) (now : UInt64) (draws : Draws) :
    ∃ router radio,
      (d.sendReply reply now draws).2.1 = { d with router := router, radio := radio } ∧
        d.router.Quiet router := by
  unfold sendReply
  cases reply with
  | none => exact ⟨d.router, d.radio, rfl, Router.Quiet.refl _⟩
  | some p =>
    have hquiet := Station.quiet_transmit { router := d.router, radio := d.radio, draws := draws }
      p now.toNat
    simp only [atStation]
    generalize Station.transmit { router := d.router, radio := d.radio, draws := draws } p
      now.toNat = sent at hquiet ⊢
    rcases sent with ⟨result, station⟩
    refine ⟨station.router, station.radio, ?_, hquiet⟩
    cases result with
    | error e => rfl
    | ok id => rfl

theorem heeded_handleInclusion (d : Device) (p : Packet) (now : UInt64) (draws : Draws) :
    (d.handleInclusion p now draws).2.1 = d ∨
      ∃ result after router radio,
        Party.Handled { inclusion := d.inclusion, keys := d.keys, draws := draws } p now result
          after ∧
        d.router.Quiet router ∧
        (d.handleInclusion p now draws).2.1 =
          { d with
            inclusion := after.inclusion
            keys := after.keys
            router := router
            radio := radio } := by
  unfold handleInclusion
  split
  · exact Or.inl rfl
  · right
    have hhandled := Party.handled
      { inclusion := d.inclusion, keys := d.keys, draws := draws } p now
    simp only [asParty]
    generalize Party.handle { inclusion := d.inclusion, keys := d.keys, draws := draws } p now =
      handled at hhandled ⊢
    rcases handled with ⟨result, after⟩
    cases result with
    | error e => exact ⟨_, after, d.router, d.radio, hhandled, Router.Quiet.refl _, rfl⟩
    | ok reply =>
      obtain ⟨router, radio, hreply, hquiet⟩ :=
        quiet_sendReply { d with inclusion := after.inclusion, keys := after.keys } reply now
          after.draws
      exact ⟨_, after, router, radio, hhandled, hquiet, hreply⟩

theorem heeded (d : Device) (frame : Bytes) (now : UInt64) (draws : Draws) :
    Heeded d frame now draws (d.heed frame now draws) := by
  have hscreen := d.router.quiet_screen frame d.radio.rssi now.toNat
  unfold heed
  cases hresult : d.router.screen frame d.radio.rssi now.toNat with
  | mk result router =>
    rw [hresult] at hscreen
    cases result with
    | error reason => exact .routed rfl rfl (Or.inl hscreen)
    | ok p =>
      have hdecode : Packet.decode frame = .ok p :=
        (Router.screen_eq_ok_iff.mp (congrArg Prod.fst hresult)).1
      simp only
      unfold handlePacket
      split
      · rcases heeded_handleInclusion { d with router := router } p now draws with
          hsame | ⟨result, after, router', radio, hhandled, hquiet, hafter⟩
        · rw [hsame]
          exact .routed rfl rfl (Or.inl hscreen)
        · rw [hafter]
          exact .handshake p result after hdecode hhandled rfl rfl (hscreen.trans hquiet)
      · refine .routed rfl rfl ?_
        rcases Station.dispatch_cases { router := router, radio := d.radio, draws := draws } p
          now.toNat d.keys with hquiet | hhands
        · exact Or.inl (hscreen.trans hquiet)
        · exact Or.inr ⟨p, hdecode, hscreen.hands hhands⟩

/-- Neither a frame nor its answer makes the application listen or tells it
anything. -/
theorem toldOf_heed (d : Device) (frame : Bytes) (now : UInt64) (draws : Draws)
    (results : List InclusionEvent) :
    (d.heed frame now draws).toldOf results = d.toldOf results := by
  unfold heed
  rcases d.router.screen frame d.radio.rssi now.toNat with ⟨result, router⟩
  cases result with
  | error reason => rfl
  | ok p =>
    simp only
    unfold handlePacket
    split
    · rcases heeded_handleInclusion { d with router := router } p now draws with
        hsame | ⟨_, _, _, _, _, _, hafter⟩
      · rw [hsame]
        rfl
      · rw [hafter]
        rfl
    · rfl

/-! ## The key -/

theorem keys_heed (hkey : d.keys.hasKey = true) : (d.heed frame now draws).keys = d.keys := by
  have hheeded := d.heeded frame now draws
  generalize d.heed frame now draws = m at hheeded ⊢
  cases hheeded with
  | routed hinclusion hkeys hrouter => exact hkeys
  | handshake p result after hdecode hhandled hinclusion hkeys hrouter =>
    exact hkeys.trans (hhandled.keys hkey)

theorem keys_processFrame (hkey : d.keys.hasKey = true) :
    (d.processFrame frame now draws).2.1.keys = d.keys := by
  rcases d.processFrame_cases frame now draws with h | ⟨h, _⟩
  · obtain ⟨storage, hemit⟩ := (d.heed frame now draws).emitEvents_eq
    rw [h, hemit]
    exact keys_heed hkey
  · rw [h]
    exact keys_heed hkey

/-! ## The frame of a poll -/

/-- What is left of a device when all that is past its time has been forgotten
and the application has been told. -/
structure Woken (d : Device) (now : UInt64) (m : Device) : Prop where
  config : m.config = d.config
  keys : m.keys = d.keys
  inclusion : m.inclusion = (d.inclusion.checkTimeouts now).drain.2
  router : d.router.Quiet m.router
  listens : m.hasInclusionHandler = d.hasInclusionHandler
  notified : m.notified = d.toldOf (d.inclusion.checkTimeouts now).events

theorem woken (d : Device) (now : UInt64) (radio : Radio) :
    Woken d now { (d.expire now).emitEvents.2 with radio := radio } := by
  obtain ⟨storage, hemit⟩ := (d.expire now).emitEvents_eq
  rw [hemit]
  exact ⟨rfl, rfl, rfl, ⟨rfl, rfl⟩, rfl, rfl⟩

/-- The device that handles a frame in an operation, and the frame. -/
def hearing (d : Device) : Operation → Option (Device × Bytes × UInt64)
  | .processFrame frame now => some (d, frame, now)
  | .poll now =>
    match (d.expire now).emitEvents with
    | (.error _, _) => none
    | (.ok (), d) =>
      match d.radio.receive with
      | .ok (some frame, radio) => some ({ d with radio := radio }, frame, now)
      | _ => none
  | _ => none

/-- What a poll may come to: the application can not be told or the radio fails, there is no
frame, or the device goes on with the frame that there is. -/
inductive Polled (d : Device) (now : UInt64) (draws : Draws) :
    Except MeshError (Option RouteOutcome) × Device × Draws → Prop where
  | failed (e : MeshError) (hnone : d.hearing (.poll now) = none) :
      Polled d now draws (.error e, (d.expire now).emitEvents.2, draws)
  | silent (radio : Radio) (hnone : d.hearing (.poll now) = none)
      (hreceive : d.radio.receive = .ok (none, radio)) :
      Polled d now draws (.ok none, { (d.expire now).emitEvents.2 with radio := radio }, draws)
  | heard (m : Device) (frame : Bytes) (radio : Radio)
      (hm : m = { (d.expire now).emitEvents.2 with radio := radio })
      (hsome : d.hearing (.poll now) = some (m, frame, now))
      (hreceive : d.radio.receive = .ok (some frame, radio)) :
      Polled d now draws
        ((m.processFrame frame now draws).1.map some, (m.processFrame frame now draws).2)

theorem polled (d : Device) (now : UInt64) (draws : Draws) :
    d.Polled now draws (d.poll now draws) := by
  have hradio : (d.expire now).emitEvents.2.radio = d.radio := radio_emitEvents _
  have hfailed := @Polled.failed d now draws
  have hsilent := @Polled.silent d now draws
  have hheard := @Polled.heard d now draws
  unfold poll
  simp only [hearing] at hfailed hsilent hheard
  generalize (d.expire now).emitEvents = emitted at hradio hfailed hsilent hheard ⊢
  rcases emitted with ⟨told, m⟩
  cases told with
  | error e => exact hfailed e rfl
  | ok done =>
    simp only at hradio hfailed hsilent hheard ⊢
    unfold receiveFrame
    rw [hradio] at hfailed hsilent hheard ⊢
    cases hreceive : d.radio.receive with
    | error e =>
      rw [hreceive] at hfailed
      exact hfailed (.radio e) rfl
    | ok received =>
      rw [hreceive] at hsilent hheard
      rcases received with ⟨frame, radio⟩
      cases frame with
      | none => exact hsilent radio rfl rfl
      | some frame =>
        have hprocessed := hheard { m with radio := radio } frame radio rfl rfl rfl
        simp only
        generalize ({ m with radio := radio } : Device).processFrame frame now draws = processed
          at hprocessed ⊢
        rcases processed with ⟨outcome, after, drawn⟩
        cases outcome with
        | error e => exact hprocessed
        | ok outcome => exact hprocessed

theorem poll_cases (d : Device) (now : UInt64) (draws : Draws) :
    (d.hearing (.poll now) = none ∧ Woken d now (d.poll now draws).2.1) ∨
      ∃ m frame, d.hearing (.poll now) = some (m, frame, now) ∧ Woken d now m ∧
        (d.poll now draws).2.1 = (m.processFrame frame now draws).2.1 := by
  have hwoken := d.woken now
  have hpolled := d.polled now draws
  generalize d.poll now draws = result at hpolled ⊢
  cases hpolled with
  | failed e hnone => exact Or.inl ⟨hnone, hwoken _⟩
  | silent radio hnone hreceive => exact Or.inl ⟨hnone, hwoken radio⟩
  | heard m frame radio hm hsome hreceive =>
    exact Or.inr ⟨m, frame, hsome, hm ▸ hwoken radio, rfl⟩

theorem keys_poll (hkey : d.keys.hasKey = true) : (d.poll now draws).2.1.keys = d.keys := by
  rcases d.poll_cases now draws with ⟨_, hwoken⟩ | ⟨m, frame, _, hwoken, hafter⟩
  · exact hwoken.keys
  · rw [hafter, keys_processFrame (by rw [hwoken.keys, hkey]), hwoken.keys]

/-! ## The handshakes that end -/

/-- The results of the handshakes that an operation ends by the time or by a
frame, in order. -/
def results (d : Device) (draws : Draws) : Operation → List InclusionEvent
  | .processFrame frame now => (d.heed frame now draws).inclusion.events
  | .poll now =>
    (d.expire now).inclusion.events ++
      match d.hearing (.poll now) with
      | some (m, frame, now) => (m.heed frame now draws).inclusion.events
      | none => []
  | _ => []

theorem toldOf_append (earlier later : List InclusionEvent)
    (hlistens : m.hasInclusionHandler = d.hasInclusionHandler)
    (hnotified : m.notified = d.toldOf earlier) :
    m.toldOf later = d.toldOf (earlier ++ later) := by
  unfold toldOf at hnotified ⊢
  rw [hlistens, hnotified]
  split
  · exact List.append_assoc ..
  · rfl

theorem notified_processFrame (hquiet : d.inclusion.events = []) :
    (d.processFrame frame now draws).2.1.notified =
      d.toldOf (d.results draws (.processFrame frame now)) := by
  obtain ⟨storage, hemit⟩ := (d.heed frame now draws).emitEvents_eq
  rw [processFrame_eq hquiet, hemit]
  exact d.toldOf_heed frame now draws _

/-- An application that listens is told of these results, and of no others. -/
theorem notified_poll (d : Device) (now : UInt64) (draws : Draws) :
    (d.poll now draws).2.1.notified = d.toldOf (d.results draws (.poll now)) := by
  simp only [results]
  rcases d.poll_cases now draws with ⟨hnone, hwoken⟩ | ⟨m, frame, hheard, hwoken, hafter⟩
  · rw [hnone, List.append_nil]
    exact hwoken.notified
  · have hquiet : m.inclusion.events = [] := by
      rw [hwoken.inclusion]
      rfl
    rw [hafter, notified_processFrame hquiet, hheard]
    exact toldOf_append _ _ hwoken.listens hwoken.notified

/-! ## Frames of packets -/

/-- A packet that is heard is handled, and the application is told. -/
def attend (d : Device) (p : Packet) (now : UInt64) (draws : Draws) : Device :=
  match ({ d.router with
      stats.received := d.router.stats.received + 1 } : Router).screenPacket p d.radio.rssi
        now.toNat with
  | (.error _, router) => { d with router := router }
  | (.ok p, router) =>
    ({ d with router := router : Device }.handlePacket p now draws).2.1.emitEvents.2

theorem perform_processFrame (d : Device) (frame : Bytes) (now : UInt64) (draws : Draws) :
    (Operation.perform (d, draws) (.processFrame frame now)).1 =
      (d.processFrame frame now draws).2.1 :=
  rfl

theorem perform_of_encode (hencode : p.encode = .ok frame) (hquiet : d.inclusion.events = []) :
    (Operation.perform (d, draws) (.processFrame frame now)).1 = d.attend p now draws := by
  rw [perform_processFrame, processFrame_eq hquiet]
  unfold heed attend Router.screen
  rw [Packet.decode_eq_ok_iff_encode.mpr hencode]
  simp only
  generalize Router.screenPacket _ p d.radio.rssi now.toNat = screened
  rcases screened with ⟨result, router⟩
  cases result with
  | error reason =>
    exact congrArg Prod.snd (emitEvents_of_quiet (d := { d with router := router }) hquiet)
  | ok p => rfl

end Device
end Meshwork
