import Meshwork.Device
import Meshwork.Proofs.Handshake.Steps

/-!
# Runs of a device

The handshakes and the key of a device are moved by a few operations only, all
of them steps of a party or the taking of events. What those steps keep is kept
by every operation made of them.
-/

namespace Meshwork
set_option autoImplicit false

namespace Party

/-- What every step keeps that is taken because of a frame, a request or the time. -/
structure Keeps (P : Inclusion → KeyRing → Prop) : Prop where
  handle {s s' : Party} {p : Packet} {now : UInt64}
      {result : Except InclusionError (Option Packet)} :
    Handled s p now result s' → P s.inclusion s.keys → P s'.inclusion s'.keys
  request {s s' : Party} {now : UInt64} {result : Except MeshError Packet} :
    Requested s now result s' → P s.inclusion s.keys → P s'.inclusion s'.keys
  expire {c : Inclusion} {k : KeyRing} (now : UInt64) : P c k → P (c.checkTimeouts now) k
  drain {c : Inclusion} {k : KeyRing} : P c k → P c.drain.2 k

end Party

namespace Device

/-- What can be done with a device, and what its surroundings can do. -/
inductive Operation where
  | poll (now : UInt64)
  | processFrame (frame : Bytes) (now : UInt64)
  | send (destination : NodeId) (topic : Topic) (payload : Bytes) (now : UInt64)
  | requestInclusion (now : UInt64)
  | enableInclusion
  | disableInclusion
  | provision (key : MeshKey)
  | leave (now : UInt64)
  | shutdown
  /-- Frames come and go, and radio and storage fail and recover. -/
  | surround (radio : Radio) (storage : Storage)

def Operation.perform (state : Device × Draws) : Operation → Device × Draws
  | poll now => (state.1.poll now state.2).2
  | processFrame frame now => (state.1.processFrame frame now state.2).2
  | send destination topic payload now => (state.1.send destination topic payload now state.2).2
  | requestInclusion now => (state.1.requestInclusion now state.2).2
  | enableInclusion => (state.1.enableInclusion state.2).2
  | disableInclusion => (state.1.disableInclusion, state.2)
  | provision key => ((state.1.provision key).2, state.2)
  | leave now => (state.1.leave now state.2).2
  | shutdown => (state.1.shutdown.2, state.2)
  | surround radio storage => ({ state.1 with radio := radio, storage := storage }, state.2)

def run (state : Device × Draws) (operations : List Operation) : Device × Draws :=
  operations.foldl Operation.perform state

/-- A property of the handshakes and the key. -/
def Holds (P : Inclusion → KeyRing → Prop) (d : Device) : Prop := P d.inclusion d.keys

variable {P : Inclusion → KeyRing → Prop} {d : Device}

theorem run_append (state : Device × Draws) (operations more : List Operation) :
    run state (operations ++ more) = run (run state operations) more :=
  List.foldl_append

theorem create_of_validate {config : Config} (h : config.validate = .ok ()) (radio : Radio)
    (storage : Storage) (provider : CryptoProvider) :
    create config radio storage provider = .ok
      { config := config, radio := radio, storage := storage, router := .create config,
        inclusion := .create config, keys := { provider := provider } } := by
  unfold create
  rw [h]

theorem eq_of_create {config : Config} {radio : Radio} {storage : Storage}
    {provider : CryptoProvider} (h : create config radio storage provider = .ok d) :
    d = { config := config, radio := radio, storage := storage, router := .create config,
          inclusion := .create config, keys := { provider := provider } } := by
  unfold create at h
  split at h
  · cases h
  · exact (Except.ok.inj h).symm

/-! ## What leaves handshakes and key alone -/

theorem holds_persistMembership (h : d.Holds P) : d.persistMembership.2.Holds P := by
  unfold persistMembership
  split
  · exact h
  · split
    · exact h
    · exact h

theorem holds_shutdown (h : d.Holds P) : d.shutdown.2.Holds P := by
  have hpersist := holds_persistMembership h
  unfold shutdown
  rcases hresult : d.persistMembership with ⟨result, after⟩
  rw [hresult] at hpersist
  cases result with
  | error e => exact hpersist
  | ok done =>
    cases done
    simp only
    split
    · exact hpersist
    · exact hpersist

theorem holds_sendReply (reply : Option Packet) (now : UInt64) (draws : Draws) (h : d.Holds P) :
    (d.sendReply reply now draws).2.1.Holds P := by
  unfold sendReply
  cases reply with
  | none => exact h
  | some p =>
    simp only [atStation]
    rcases Station.transmit { router := d.router, radio := d.radio, draws := draws } p
      now.toNat with ⟨result, station⟩
    cases result with
    | error e => exact h
    | ok id => exact h

theorem holds_send (destination : NodeId) (topic : Topic) (payload : Bytes) (now : UInt64)
    (draws : Draws) (h : d.Holds P) :
    (d.send destination topic payload now draws).2.1.Holds P := by
  unfold send
  split
  · exact h
  · split
    · exact h
    · split
      · exact h
      · exact h

/-! ## What moves them by steps of a party -/

theorem holds_emitEvents (hkeeps : Party.Keeps P) (h : d.Holds P) : d.emitEvents.2.Holds P := by
  have hdrain : P d.inclusion.drain.2 d.keys := hkeeps.drain h
  unfold emitEvents
  split
  · exact h
  · rename_i inclusion heq
    rw [heq] at hdrain
    exact holds_persistMembership hdrain

theorem holds_handleInclusion (hkeeps : Party.Keeps P) (p : Packet) (now : UInt64) (draws : Draws)
    (h : d.Holds P) : (d.handleInclusion p now draws).2.1.Holds P := by
  unfold handleInclusion
  split
  · exact h
  · let party : Party := { inclusion := d.inclusion, keys := d.keys, draws := draws }
    have hhandled := party.handled p now
    simp only [asParty]
    rcases hresult : party.handle p now with ⟨result, after⟩
    rw [hresult] at hhandled
    have hafter : P after.inclusion after.keys := hkeeps.handle hhandled h
    cases result with
    | error e => exact hafter
    | ok reply => exact holds_sendReply reply now after.draws hafter

theorem holds_handlePacket (hkeeps : Party.Keeps P) (p : Packet) (now : UInt64) (draws : Draws)
    (h : d.Holds P) : (d.handlePacket p now draws).2.1.Holds P := by
  unfold handlePacket
  split
  · exact holds_handleInclusion hkeeps p now draws h
  · exact h

theorem holds_processFrame (hkeeps : Party.Keeps P) (frame : Bytes) (now : UInt64) (draws : Draws)
    (h : d.Holds P) : (d.processFrame frame now draws).2.1.Holds P := by
  unfold processFrame
  rcases d.router.screen frame d.radio.rssi now.toNat with ⟨result, router⟩
  cases result with
  | error reason => exact h
  | ok p =>
    have hpacket := holds_handlePacket (d := { d with router := router }) hkeeps p now draws h
    simp only
    rcases hresult : ({ d with router := router } : Device).handlePacket p now draws with
      ⟨outcome, after, drawn⟩
    rw [hresult] at hpacket
    have hemit := holds_emitEvents hkeeps hpacket
    simp only
    rcases hemitted : after.emitEvents with ⟨told, final⟩
    rw [hemitted] at hemit
    cases told with
    | error e => exact hemit
    | ok done =>
      cases done
      exact hemit

theorem holds_receiveFrame (hkeeps : Party.Keeps P) (now : UInt64) (draws : Draws)
    (h : d.Holds P) : (d.receiveFrame now draws).2.1.Holds P := by
  unfold receiveFrame
  cases d.radio.receive with
  | error e => exact h
  | ok received =>
    rcases received with ⟨frame, radio⟩
    cases frame with
    | none => exact h
    | some frame =>
      have hframe := holds_processFrame (d := { d with radio := radio }) hkeeps frame now draws h
      simp only
      rcases hresult : ({ d with radio := radio } : Device).processFrame frame now draws with
        ⟨outcome, after, drawn⟩
      rw [hresult] at hframe
      cases outcome with
      | error e => exact hframe
      | ok outcome => exact hframe

theorem holds_poll (hkeeps : Party.Keeps P) (now : UInt64) (draws : Draws) (h : d.Holds P) :
    (d.poll now draws).2.1.Holds P := by
  have hexpire : (d.expire now).Holds P := hkeeps.expire now h
  have hemit := holds_emitEvents hkeeps hexpire
  unfold poll
  rcases hemitted : (d.expire now).emitEvents with ⟨told, after⟩
  rw [hemitted] at hemit
  cases told with
  | error e => exact hemit
  | ok done =>
    cases done
    exact holds_receiveFrame hkeeps now draws hemit

theorem holds_requestInclusion (hkeeps : Party.Keeps P) (now : UInt64) (draws : Draws)
    (h : d.Holds P) : (d.requestInclusion now draws).2.1.Holds P := by
  let party : Party := { inclusion := d.inclusion, keys := d.keys, draws := draws }
  have hrequested := party.requested now
  unfold requestInclusion
  simp only [asParty]
  rcases hresult : party.request now with ⟨result, after⟩
  rw [hresult] at hrequested
  have hafter : P after.inclusion after.keys := hkeeps.request hrequested h
  cases result with
  | error e => exact hafter
  | ok p =>
    simp only [atStation]
    rcases ({ router := d.router, radio := d.radio, draws := after.draws } : Station).transmit p
        now.toNat with ⟨sent, station⟩
    cases sent with
    | error e => exact hafter
    | ok id => exact hafter

/-! ## What moves them otherwise -/

theorem holds_enableInclusion (draws : Draws) (hrole : d.inclusion.role = .standard)
    (h : d.Holds P) : (d.enableInclusion draws).2.1.Holds P := by
  let party : Party := { inclusion := d.inclusion, keys := d.keys, draws := draws }
  obtain ⟨e, hrefused⟩ := party.enable_of_standard hrole
  unfold enableInclusion
  simp only [asParty]
  rw [hrefused]
  exact h

/-- A key is installed only where there is none, and makes a device a member. -/
theorem provision_cases (d : Device) (key : MeshKey) :
    (d.keys.hasKey = true ∧ (d.provision key).2 = d) ∨
      (d.keys.key = none ∧
        (d.provision key).2.inclusion = d.inclusion.restore .included ∧
        (d.provision key).2.keys =
          { d.keys with key := some key, installs := d.keys.installs + 1 }) := by
  unfold provision
  rcases d.keys.install_cases key with ⟨e, hkey, hinstall⟩ | ⟨hnone, hinstall⟩
  · rw [hinstall]
    exact Or.inl ⟨hkey, rfl⟩
  · rw [hinstall]
    let keys : KeyRing := { d.keys with key := some key, installs := d.keys.installs + 1 }
    have hpersist := holds_persistMembership
      (P := fun c k => c = d.inclusion.restore .included ∧ k = keys)
      (d := { d with keys := keys, inclusion := d.inclusion.restore .included }) ⟨rfl, rfl⟩
    exact Or.inr ⟨hnone, hpersist.1, hpersist.2⟩

/-- Only a member leaves, and forgets everything. -/
theorem leave_cases (d : Device) (now : UInt64) (draws : Draws) :
    (d.leave now draws).2.1 = d ∨
      (d.state = .included ∧ (d.leave now draws).2.1.inclusion = d.inclusion.reset ∧
        (d.leave now draws).2.1.keys = d.keys.clear) := by
  unfold leave
  split
  · exact Or.inl rfl
  · split
    · exact Or.inl rfl
    · rename_i hstate
      have hsent : (d.broadcast .bye [] now draws).2.1.Holds
          (fun c k => c = d.inclusion ∧ k = d.keys) :=
        holds_send .broadcast .bye [] now draws ⟨rfl, rfl⟩
      rcases hresult : d.broadcast .bye [] now draws with ⟨result, after, drawn⟩
      rw [hresult] at hsent
      have hforgotten : after.forget.Holds
          (fun c k => c = d.inclusion.reset ∧ k = d.keys.clear) :=
        ⟨congrArg Inclusion.reset hsent.1, congrArg KeyRing.clear hsent.2⟩
      have hpersist := holds_persistMembership hforgotten
      exact Or.inr ⟨Decidable.not_not.mp hstate, hpersist.1, hpersist.2⟩

end Device
end Meshwork
