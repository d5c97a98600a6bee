import Meshwork.Proofs.Device.Stored
import Meshwork.Proofs.Station.Hearing
import Meshwork.Simulation.Step

/-!
# An inbox emptied by polls

A device whose radio and storage work, that has a key and hears no handshake, gets
through its whole inbox: its router attends to one frame after the other and sweeps
once more. Nothing else of the device matters to it.
-/

namespace Meshwork
set_option autoImplicit false

/-- A frame of anything but a handshake, or of nothing. -/
def IsPlain (frame : Bytes) : Prop :=
  ∀ p, Packet.decode frame = .ok p → p.topic.isInclusion = false

theorem Packet.HasCopy.isPlain {m : Packet} {provider : CryptoProvider} {key : MeshKey}
    {text frame : Bytes} (hm : m.Carries provider key text) (h : m.HasCopy frame) :
    IsPlain frame := by
  obtain ⟨hop, last, next, rfl⟩ := h
  intro p hp
  rw [hm.decode hop last next] at hp
  cases hp
  exact hm.plain

theorem Radio.receive_cons {r : Radio} {entry : Bytes × Int16} {rest : List (Bytes × Int16)}
    (hworks : r.receiveFault = none) (hinbox : r.inbox = entry :: rest) :
    r.receive = .ok (some entry.1, { r with inbox := r.inbox.tail, rssi := entry.2 }) := by
  unfold receive
  split
  · rename_i e hfault
    rw [hworks] at hfault
    cases hfault
  · split
    · rename_i hempty
      rw [hinbox] at hempty
      cases hempty
    · rename_i frame rssi rest' heq
      rw [hinbox] at heq
      cases heq
      rw [hinbox]
      rfl

namespace Device

/-- A device that has this key, and whose radio and storage never fail. -/
structure Works (provider : CryptoProvider) (key : MeshKey) (d : Device) : Prop where
  keys : d.keys.Holds provider key
  sends : d.radio.sendFault = none
  receives : d.radio.receiveFault = none
  stores : d.storage.Accepts

/-- The router of a device at work. -/
def station (d : Device) (draws : Draws) : Station :=
  { router := d.router, radio := d.radio, draws := draws }

variable {d m : Device} {provider : CryptoProvider} {key : MeshKey} {now : UInt64} {draws : Draws}

theorem atStation_eq {α : Type} (work : Station → Except MeshError α × Station)
    {result : Except MeshError α} {after : Station} (h : work (d.station draws) = (result, after)) :
    d.atStation draws work =
      (result, { d with router := after.router, radio := after.radio }, after.draws) := by
  unfold atStation
  rw [show work { router := d.router, radio := d.radio, draws := draws } = _ from h]

/-- What routing leaves of a device. -/
structure Resembles (d m : Device) : Prop where
  config : m.config = d.config
  keys : m.keys = d.keys
  accepts : m.storage.Accepts

theorem Resembles.trans {m' : Device} (h : d.Resembles m) (h' : m.Resembles m') :
    d.Resembles m' :=
  ⟨h'.config.trans h.config, h'.keys.trans h.keys, h'.accepts⟩

theorem emitEvents_ok (h : d.storage.Accepts) :
    ∃ m, d.emitEvents = (.ok (), m) ∧ d.Resembles m ∧ m.router = d.router ∧ m.radio = d.radio := by
  unfold emitEvents
  split
  · exact ⟨d, rfl, ⟨rfl, rfl, h⟩, rfl, rfl⟩
  · rename_i events inclusion _ heq
    obtain ⟨storage, hpersist, haccepts⟩ := persistMembership_ok
      (d := { d with
        inclusion := inclusion
        notified := if d.hasInclusionHandler then d.notified ++ events else d.notified }) h
    exact ⟨_, hpersist, ⟨rfl, rfl, haccepts⟩, rfl, rfl⟩

theorem handlePacket_plain {p : Packet} (hplain : p.topic.isInclusion = false) (now : UInt64)
    (draws : Draws) :
    d.handlePacket p now draws =
      (((d.station draws).dispatch p now.toNat d.keys).1,
        { d with
          router := ((d.station draws).dispatch p now.toNat d.keys).2.router
          radio := ((d.station draws).dispatch p now.toNat d.keys).2.radio },
        ((d.station draws).dispatch p now.toNat d.keys).2.draws) := by
  unfold handlePacket
  rw [hplain]
  rfl

/-- A plain frame does to the router of a device what it does to a router alone. -/
theorem processFrame_plain {frame : Bytes} (hworks : d.Works provider key)
    (hfaithful : provider.IsFaithful) (hplain : IsPlain frame) (now : UInt64) (draws : Draws) :
    ∃ outcome m after, d.processFrame frame now draws = (.ok outcome, m, after.draws) ∧
      ((d.station draws).route frame d.radio.rssi now.toNat d.keys).2 = after ∧
      d.Resembles m ∧ m.station after.draws = after := by
  obtain ⟨outcome, hroute⟩ := Station.route_ok (s := d.station draws) hworks.sends
    (hworks.keys.provider ▸ hfaithful.sealsAll) frame d.radio.rssi now.toNat
  unfold Station.route at hroute ⊢
  unfold processFrame
  rw [show (d.station draws).router = d.router from rfl] at hroute ⊢
  rcases hscreen : d.router.screen frame d.radio.rssi now.toNat with ⟨result, router⟩
  rw [hscreen] at hroute
  cases result with
  | error reason =>
    exact ⟨_, _, { d.station draws with router := router }, rfl, rfl, ⟨rfl, rfl, hworks.stores⟩,
      rfl⟩
  | ok p =>
    obtain ⟨hdecode, _⟩ := Router.screen_eq_ok_iff.mp (congrArg Prod.fst hscreen)
    have hhandled := handlePacket_plain (d := { d with router := router }) (hplain p hdecode) now
      draws
    let served := Station.dispatch { d.station draws with router := router } p now.toNat d.keys
    have hserved : served.1 = .ok outcome := hroute
    obtain ⟨m, hemit, hresembles, hrouter, hradio⟩ := emitEvents_ok
      (d := { d with router := served.2.router, radio := served.2.radio }) hworks.stores
    refine ⟨outcome, m, _, ?_, rfl, ⟨hresembles.config, hresembles.keys, hresembles.accepts⟩, ?_⟩
    · simp only
      rw [hhandled]
      simp only
      rw [show (Device.station { d with router := router } draws) =
        { d.station draws with router := router } from rfl, hserved, hemit]
    · unfold station
      rw [hrouter, hradio]
      rfl

/-! ## Polls -/

theorem expire_emitted (hworks : d.Works provider key) (now : UInt64) :
    ∃ m, (d.expire now).emitEvents = (.ok (), m) ∧ d.Resembles m ∧
      m.router = d.router.sweep now.toNat ∧ m.radio = d.radio := by
  obtain ⟨m, hemit, hresembles, hrouter, hradio⟩ := emitEvents_ok (d := d.expire now) hworks.stores
  exact ⟨m, hemit, ⟨hresembles.config, hresembles.keys, hresembles.accepts⟩, hrouter, hradio⟩

theorem poll_empty (hworks : d.Works provider key) (hinbox : d.radio.inbox = []) (now : UInt64)
    (draws : Draws) :
    ∃ m, d.poll now draws = (.ok none, m, draws) ∧ d.Resembles m ∧
      m.router = d.router.sweep now.toNat ∧ m.radio = d.radio := by
  obtain ⟨m, hemit, hresembles, hrouter, hradio⟩ := expire_emitted hworks now
  have hreceive : m.radio.receive = .ok (none, m.radio) := by
    unfold Radio.receive
    rw [hradio, hworks.receives, hinbox]
  refine ⟨m, ?_, hresembles, hrouter, hradio⟩
  unfold poll receiveFrame
  rw [hemit]
  simp only
  rw [hreceive]

theorem poll_frame {entry : Bytes × Int16} {rest : List (Bytes × Int16)}
    (hworks : d.Works provider key) (hfaithful : provider.IsFaithful)
    (hinbox : d.radio.inbox = entry :: rest) (hplain : IsPlain entry.1) (now : UInt64)
    (draws : Draws) :
    ∃ outcome m, d.poll now draws =
        (.ok (some outcome), m, (Station.attend d.keys now.toNat (d.station draws) entry).draws) ∧
      d.Resembles m ∧
      m.station (Station.attend d.keys now.toNat (d.station draws) entry).draws =
        Station.attend d.keys now.toNat (d.station draws) entry := by
  obtain ⟨awake, hemit, hresembles, hrouter, hradio⟩ := expire_emitted hworks now
  have hreceive : awake.radio.receive =
      .ok (some entry.1, { d.radio with inbox := d.radio.inbox.tail, rssi := entry.2 }) := by
    rw [hradio]
    exact Radio.receive_cons hworks.receives hinbox
  have hready : Works provider key { awake with
      radio := { d.radio with inbox := d.radio.inbox.tail, rssi := entry.2 } } :=
    ⟨hresembles.keys ▸ hworks.keys, hworks.sends, hworks.receives, hresembles.accepts⟩
  obtain ⟨outcome, m, after, hprocess, hroute, hleft, hstation⟩ :=
    processFrame_plain hready hfaithful hplain now draws
  have hattend : Station.attend d.keys now.toNat (d.station draws) entry = after := by
    rw [← hroute]
    unfold Station.attend Station.awake station
    rw [hrouter, hresembles.keys]
  refine ⟨outcome, m, ?_, hresembles.trans ⟨hleft.config, hleft.keys, hleft.accepts⟩, ?_⟩
  · unfold poll receiveFrame
    rw [hemit]
    simp only
    rw [hreceive]
    simp only
    rw [hprocess, hattend]
  · rw [hattend]
    exact hstation

end Device

namespace Simulation

variable {d : Device} {provider : CryptoProvider} {key : MeshKey}

/-- The router of a device after all frames of its inbox. -/
def attended (d : Device) (now : Nat) (draws : Draws) : Station :=
  d.radio.inbox.foldl (Station.attend d.keys now) (d.station draws)

theorem drainInbox_eq (fuel : Nat) (hworks : d.Works provider key)
    (hfaithful : provider.IsFaithful) (hplain : ∀ entry ∈ d.radio.inbox, IsPlain entry.1)
    (hfuel : d.radio.inbox.length < fuel) (now : UInt64) (draws : Draws) :
    ∃ m, drainInbox fuel d now draws = (.ok (), m, (attended d now.toNat draws).draws) ∧
      d.Resembles m ∧ m.router = (attended d now.toNat draws).router.sweep now.toNat ∧
      m.radio = (attended d now.toNat draws).radio := by
  induction fuel generalizing d draws with
  | zero => exact absurd hfuel (Nat.not_lt_zero _)
  | succ fuel ih =>
    unfold drainInbox attended
    cases hinbox : d.radio.inbox with
    | nil =>
      obtain ⟨m, hpoll, hresembles, hrouter, hradio⟩ := Device.poll_empty hworks hinbox now draws
      rw [hpoll]
      exact ⟨m, rfl, hresembles, hrouter, hradio⟩
    | cons entry rest =>
      have hfirst : IsPlain entry.1 := hplain entry (hinbox ▸ List.mem_cons_self)
      obtain ⟨outcome, next, hpoll, hresembles, hstation⟩ :=
        Device.poll_frame hworks hfaithful hinbox hfirst now draws
      have hradio : ∃ outbox, next.radio =
          { d.radio with inbox := rest, rssi := entry.2, outbox := outbox } := by
        obtain ⟨outbox, h⟩ := Station.attend_radio d.keys now.toNat (d.station draws) entry
        rw [← hstation] at h
        have htail : (d.station draws).radio.inbox.tail = rest := by
          change d.radio.inbox.tail = rest
          rw [hinbox]
          rfl
        rw [htail] at h
        exact ⟨outbox, h⟩
      obtain ⟨outbox, hradio⟩ := hradio
      have hnext : next.Works provider key := by
        refine ⟨hresembles.keys ▸ hworks.keys, ?_, ?_, hresembles.accepts⟩
        · rw [hradio]
          exact hworks.sends
        · rw [hradio]
          exact hworks.receives
      have hrest : next.radio.inbox = rest := by rw [hradio]
      have hlater : ∀ e ∈ next.radio.inbox, IsPlain e.1 := by
        rw [hrest]
        exact fun e he => hplain e (hinbox ▸ List.mem_cons_of_mem entry he)
      have hshorter : next.radio.inbox.length < fuel := by
        rw [hinbox, List.length_cons] at hfuel
        rw [hrest]
        omega
      obtain ⟨m, hdrain, hleft, hrouter, hradio⟩ :=
        ih hnext hlater hshorter (Station.attend d.keys now.toNat (d.station draws) entry).draws
      unfold attended at hdrain hrouter hradio
      rw [hrest, hresembles.keys, hstation] at hdrain hrouter hradio
      rw [hpoll]
      exact ⟨m, hdrain, hresembles.trans hleft, hrouter, hradio⟩

/-- A device that works empties its inbox, whatever plain frames are in it. -/
theorem drainDevice_eq (hworks : d.Works provider key) (hfaithful : provider.IsFaithful)
    (hplain : ∀ entry ∈ d.radio.inbox, IsPlain entry.1) (now : UInt64) (draws : Draws) :
    ∃ m, drainDevice d now draws = (.ok (), m, (attended d now.toNat draws).draws) ∧
      d.Resembles m ∧ m.router = (attended d now.toNat draws).router.sweep now.toNat ∧
      m.radio = (attended d now.toNat draws).radio :=
  drainInbox_eq _ hworks hfaithful hplain (Nat.lt_succ_self _) now draws

end Simulation
end Meshwork
