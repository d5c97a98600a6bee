import Meshwork.Proofs.Device.Setup
import Meshwork.Proofs.Simulation.Steps
import Meshwork.Proofs.Walk

/-!
# A mesh that is set up, and a message in it

All devices of a mesh share a configuration but for identifier and role, are members
under the same key and have nothing to do. Who can hear whom depends on where they
stand only, so it stays through all steps.
-/

namespace Meshwork
set_option autoImplicit false

namespace Simulation

/-- Frames of one node are put into the inbox of another. -/
def Reaches (s : Simulation) (sender receiver : Nat) : Prop :=
  receiver ≠ sender ∧ ∃ a b, s.nodes[sender]? = some a ∧ s.nodes[receiver]? = some b ∧
    isHeard s.setup.medium (s.setup.medium.rssi a.position b.position) = true

/-- The configuration that a node shares with the others. -/
def configOf (mesh : Config) (d : Device) : Config :=
  { mesh with nodeId := d.nodeId, role := d.config.role }

/-- A mesh of devices in any state that they can have come to, all of them members
with the same key, and with nothing to send or to hear. -/
structure Assembled (mesh : Config) (provider : CryptoProvider) (key : MeshKey) (s : Simulation) :
    Prop where
  distinct : (s.nodes.map fun n => n.device.nodeId).Nodup
  reachable : ∀ n ∈ s.nodes, Device.Reachable (configOf mesh n.device) n.device
  member : ∀ n ∈ s.nodes, n.device.state = .included
  listens : ∀ n ∈ s.nodes, n.device.router.hasHandler = true
  works : ∀ n ∈ s.nodes, n.device.Works provider key
  inbox : ∀ n ∈ s.nodes, n.device.radio.inbox = []
  outbox : ∀ n ∈ s.nodes, n.device.radio.outbox = []

/-- The deliveries that the application of a node has been given. -/
def handed (s : Simulation) (index : Nat) : List Delivery :=
  match s.device? index with
  | some d => d.router.handed
  | none => []

variable {s s' : Simulation} {mesh : Config} {provider : CryptoProvider} {key : MeshKey}
variable {sender receiver : Nat} {n n' : SimNode} {m : Packet}

theorem handed_eq_nil (hnone : s.nodes[receiver]? = none) : s.handed receiver = [] := by
  unfold handed device?
  rw [hnone]
  rfl

theorem handed_eq (hn : s.nodes[receiver]? = some n) :
    s.handed receiver = n.device.router.handed := by
  unfold handed device?
  rw [hn]
  rfl

/-! ## Who hears whom -/

theorem Reaches.exists_sender (h : s.Reaches sender receiver) : ∃ a, s.nodes[sender]? = some a := by
  obtain ⟨_, a, _, ha, _⟩ := h
  exact ⟨a, ha⟩

theorem Reaches.receiver_lt (h : s.Reaches sender receiver) : receiver < s.nodes.length := by
  obtain ⟨_, _, b, _, hb, _⟩ := h
  exact (List.getElem?_eq_some_iff.mp hb).1

theorem index_lt_of_atDistance {source i d : Nat} (hsource : source < s.nodes.length)
    (h : AtDistance s.Reaches source d i) : i < s.nodes.length := by
  cases h.walk with
  | stay => exact hsource
  | step _ hstep => exact hstep.receiver_lt

theorem Endured.reaches_iff (h : Endured provider key s s') :
    s'.Reaches sender receiver ↔ s.Reaches sender receiver := by
  constructor
  · rintro ⟨hne, a', b', ha', hb', hheard⟩
    obtain ⟨a, ha, hsender⟩ := h.before ha'
    obtain ⟨b, hb, hreceiver⟩ := h.before hb'
    refine ⟨hne, a, b, ha, hb, ?_⟩
    rw [← hsender.position, ← hreceiver.position, ← h.setup]
    exact hheard
  · rintro ⟨hne, a, b, ha, hb, hheard⟩
    obtain ⟨a', ha', hsender⟩ := h.node sender a ha
    obtain ⟨b', hb', hreceiver⟩ := h.node receiver b hb
    refine ⟨hne, a', b', ha', hb', ?_⟩
    rw [hsender.position, hreceiver.position, h.setup]
    exact hheard

/-- What arrives was waiting at somebody who can be heard. -/
theorem reaches_of_arriving {entry : Bytes × Int16} (h : entry ∈ s.arriving receiver) :
    ∃ sender a, s.Reaches sender receiver ∧ s.nodes[sender]? = some a ∧
      entry.1 ∈ a.device.radio.outbox := by
  obtain ⟨sender, _, hbetween⟩ := List.mem_flatMap.mp h
  obtain ⟨a, b, ha, hb, hne, hheard, hframe⟩ := mem_between hbetween
  exact ⟨sender, a, ⟨hne, a, b, ha, hb, hheard⟩, ha, hframe⟩

theorem arriving_of_reaches {frame : Bytes} (hreaches : s.Reaches sender receiver)
    (hn : s.nodes[sender]? = some n) (hframe : frame ∈ n.device.radio.outbox) :
    ∃ rssi, (frame, rssi) ∈ s.arriving receiver := by
  obtain ⟨hne, a, b, ha, hb, hheard⟩ := hreaches
  rw [hn] at ha
  cases ha
  obtain ⟨hsender, _⟩ := List.getElem?_eq_some_iff.mp hn
  refine ⟨Medium.reported (s.setup.medium.rssi n.position b.position),
    List.mem_flatMap.mpr ⟨sender, List.mem_range.mpr hsender, ?_⟩⟩
  unfold between
  rw [hn, hb]
  simp only [if_neg hne]
  unfold SimNode.catches
  rw [if_pos hheard]
  exact List.mem_map_of_mem hframe

/-- Frames are only on their way from the nodes at this distance, one from each of them,
if there are any at all. -/
structure Wave (provider : CryptoProvider) (key : MeshKey) (s s' : Simulation) (source t : Nat)
    (on : Prop) (copy : SimNode → Bytes) : Prop where
  endured : Endured provider key s s'
  sends : ∀ (i : Nat) (n n' : SimNode), s.nodes[i]? = some n → s'.nodes[i]? = some n' → on →
    AtDistance s.Reaches source t i → n'.device.radio.outbox = [copy n]
  only : ∀ (i : Nat) (n n' : SimNode), s.nodes[i]? = some n → s'.nodes[i]? = some n' →
    ∀ frame ∈ n'.device.radio.outbox,
      on ∧ AtDistance s.Reaches source t i ∧ frame = copy n

namespace Wave

variable {source t i : Nat} {on : Prop} {copy : SimNode → Bytes}

theorem of_mem_arriving (h : Wave provider key s s' source t on copy) {entry : Bytes × Int16}
    (hentry : entry ∈ s'.arriving i) :
    ∃ sender a, on ∧ s.Reaches sender i ∧ AtDistance s.Reaches source t sender ∧
      s.nodes[sender]? = some a ∧ entry.1 = copy a := by
  obtain ⟨sender, a', hreaches, ha', hframe⟩ := reaches_of_arriving hentry
  obtain ⟨a, ha, _⟩ := h.endured.before ha'
  obtain ⟨hon, hdistance, hcopy⟩ := h.only sender a a' ha ha' entry.1 hframe
  exact ⟨sender, a, hon, h.endured.reaches_iff.mp hreaches, hdistance, ha, hcopy⟩

/-- The nodes one step further have something to hear. -/
theorem arriving_ne_nil (h : Wave provider key s s' source t on copy) (hon : on)
    (hdistance : AtDistance s.Reaches source (t + 1) i) : s'.arriving i ≠ [] := by
  obtain ⟨sender, hsender, hreaches⟩ := hdistance.exists_previous
  obtain ⟨a, ha⟩ := hreaches.exists_sender
  obtain ⟨a', ha', _⟩ := h.endured.node sender a ha
  obtain ⟨rssi, hentry⟩ := arriving_of_reaches (h.endured.reaches_iff.mpr hreaches) ha'
    (h.sends sender a a' ha ha' hon hsender ▸ List.mem_singleton_self _)
  exact List.ne_nil_of_mem hentry

/-- To the nodes further away nothing has come. -/
theorem arriving_eq_nil (h : Wave provider key s s' source t on copy)
    (hfar : on → ∀ d, AtDistance s.Reaches source d i → t + 1 < d) : s'.arriving i = [] := by
  refine List.eq_nil_iff_forall_not_mem.mpr fun entry hentry => ?_
  obtain ⟨sender, a, hon, hreaches, hdistance, _, _⟩ := h.of_mem_arriving hentry
  obtain ⟨d, hd, hnearer⟩ := hdistance.exists_of_step hreaches
  exact Nat.not_lt_of_le hd (hfar hon d hnearer)

end Wave

/-! ## Identifiers -/

theorem Assembled.fitsConfig (h : s.Assembled mesh provider key) (hn : n ∈ s.nodes) :
    (configOf mesh n.device).IsValid ∧ n.device.router.FitsConfig (configOf mesh n.device) :=
  (h.reachable n hn).fitsConfig

theorem window_of_alike {r : Router} (hs : s.Assembled mesh provider key) (hn : n ∈ s.nodes)
    (hr : n.device.router.Alike r) : r.tracker.window = mesh.dedupWindow.toNat :=
  ((hs.fitsConfig hn).2.of_alike hr).window

theorem Assembled.nodeId (h : s.Assembled mesh provider key) (hn : n ∈ s.nodes) :
    n.device.router.nodeId = n.device.nodeId :=
  (h.fitsConfig hn).2.nodeId

theorem Assembled.index_unique (h : s.Assembled mesh provider key) {i j : Nat}
    (hi : s.nodes[i]? = some n) (hj : s.nodes[j]? = some n')
    (hsame : n.device.nodeId = n'.device.nodeId) : i = j := by
  have hid : ∀ {i : Nat} {n : SimNode}, s.nodes[i]? = some n →
      (s.nodes.map fun n => n.device.nodeId)[i]? = some n.device.nodeId := by
    intro i n hn
    rw [List.getElem?_map, hn]
    rfl
  obtain ⟨hlt, _⟩ := List.getElem?_eq_some_iff.mp (hid hi)
  exact (List.getElem?_inj hlt h.distinct).mp ((hid hi).trans (hsame ▸ (hid hj).symm))

theorem Assembled.nodeId_ne (h : s.Assembled mesh provider key) {i j : Nat}
    (hi : s.nodes[i]? = some n) (hj : s.nodes[j]? = some n') (hne : i ≠ j) :
    n.device.nodeId ≠ n'.device.nodeId :=
  fun hsame => hne (h.index_unique hi hj hsame)

theorem Assembled.not_isBroadcast (h : s.Assembled mesh provider key) (hn : n ∈ s.nodes) :
    n.device.nodeId.isBroadcast = false :=
  (Bool.or_eq_false_iff.mp (h.fitsConfig hn).1.named).1

/-- Hops up to a limit are counted as they are. -/
theorem toNat_ofNat_of_le (limit : UInt8) {count : Nat} (hcount : count ≤ limit.toNat) :
    (UInt8.ofNat count).toNat = count :=
  UInt8.toNat_ofNat_of_lt' (Nat.lt_of_le_of_lt hcount limit.toNat_lt)

/-! ## Sending -/

/-- A node has put a message of its own into its outbox. -/
structure Sent (s s' : Simulation) (sender : Nat) (m : Packet) (n n' : SimNode) : Prop where
  setup : s'.setup = s.setup
  now : s'.now = s.now
  length : s'.nodes.length = s.nodes.length
  transmitted : s'.stats.framesTransmitted = s.stats.framesTransmitted
  other : ∀ j, j ≠ sender → s'.nodes[j]? = s.nodes[j]?
  node : s'.nodes[sender]? = some n'
  position : n'.position = n.position
  device : n.device.Resembles n'.device
  router : ∃ stats, n'.device.router = { n.device.router with
    tracker := (n.device.router.tracker.observe m.key s.now.toNat).2
    stats := stats }
  radio : n'.device.radio = { n.device.radio with
    outbox := n.device.radio.outbox ++ [(m.copy 0 n.device.router.nodeId
      (if m.isBroadcast then .broadcast else n.device.router.nextHop m.destination)).frame] }

theorem Sent.endured {n n' : SimNode} (h : Sent s s' sender m n n')
    (hs : s.Assembled mesh provider key) (hn : s.nodes[sender]? = some n) :
    Endured provider key s s' := by
  refine ⟨h.setup, h.length, ?_⟩
  intro i a ha
  have hmem := List.mem_of_getElem? ha
  by_cases hi : i = sender
  · subst hi
    rw [hn] at ha
    cases ha
    obtain ⟨stats, hrouter⟩ := h.router
    have hworks := hs.works n hmem
    refine ⟨n', h.node, h.position, h.device, ?_, ⟨h.device.keys ▸ hworks.keys, ?_, ?_,
      h.device.accepts⟩, ?_⟩
    · rw [hrouter]
      exact ⟨rfl, rfl, rfl, rfl, rfl, rfl, id, [.observe m.key s.now.toNat], rfl⟩
    · rw [h.radio]
      exact hworks.sends
    · rw [h.radio]
      exact hworks.receives
    · rw [h.radio]
      exact hs.inbox n hmem
  · exact ⟨a, (h.other i hi).trans ha, Endures.refl (hs.works a hmem) (hs.inbox a hmem)⟩

/-- The identifier that the next message of any node gets. -/
def nextId (s : Simulation) : UInt32 := Station.nextId s.draws

theorem originate_eq (hn : s.nodes[sender]? = some n) (hworks : n.device.Works provider key)
    (hmember : n.device.state = .included) (hfaithful : provider.IsFaithful) {topic : Topic}
    {payload : Bytes} (destination : NodeId) (index : Option Nat)
    (hcanonical : topic.isCanonical = true) (hplain : topic.isInclusion = false)
    (hshort : payload.length ≤ 201) :
    ∃ m s' n', m = { Packet.fresh n.device.router.nodeId destination topic [] s.nextId with
        payload := m.payload } ∧
      m.Carries provider key payload ∧
      s.originate sender destination index topic payload = (.ok s.nextId, s') ∧
      Sent s s' sender m n n' := by
  have hfits : payload.length + CryptoProvider.sealOverhead ≤ Packet.maxPayload := by
    simp only [CryptoProvider.sealOverhead, Gcm.nonceLength, Gcm.tagLength, Packet.maxPayload,
      Packet.maxFrameLength, Packet.minFrameLength, Packet.headerLength, Packet.checksumLength]
    omega
  obtain ⟨m, after, hm, hcarries, hsent⟩ := Station.originate_eq
    (s := n.device.station s.draws) hworks.sends hworks.keys hfaithful destination hcanonical
    hplain hfits s.now.toNat
  have hdevice : ∃ d, n.device.send destination topic payload s.now s.draws =
        (.ok s.nextId, d, after) ∧ n.device.Resembles d ∧
      (∃ stats, d.router = { n.device.router with
        tracker := (n.device.router.tracker.observe m.key s.now.toNat).2
        stats := stats }) ∧
      d.radio = { n.device.radio with
        outbox := n.device.radio.outbox ++ [(m.copy 0 n.device.router.nodeId
          (if m.isBroadcast then .broadcast
            else n.device.router.nextHop m.destination)).frame] } := by
    have hstation := Device.atStation_eq
      (·.originate destination topic payload s.now.toNat n.device.keys) hsent
    have hguards : n.device.send destination topic payload s.now s.draws =
        n.device.atStation s.draws
          (·.originate destination topic payload s.now.toNat n.device.keys) := by
      unfold Device.send
      rw [if_neg (by rw [hcanonical]; decide), if_neg (by rw [hplain]; decide),
        if_neg (not_not_intro hmember)]
    exact ⟨_, hguards.trans hstation, ⟨rfl, rfl, hworks.stores⟩, ⟨_, rfl⟩, rfl⟩
  obtain ⟨d, hdevice, hresembles, hrouter, hradio⟩ := hdevice
  have hpresent : s.device? sender = some n.device := by
    unfold device?
    rw [hn]
    rfl
  have horiginate : ∃ s', s.originate sender destination index topic payload = (.ok s.nextId, s') ∧
      s'.setup = s.setup ∧ s'.now = s.now ∧ s'.nodes = (s.setDevice sender d).nodes ∧
      s'.stats.framesTransmitted = s.stats.framesTransmitted := by
    unfold originate onDevice
    rw [hpresent]
    simp only
    rw [hdevice]
    exact ⟨_, rfl, rfl, rfl, rfl, rfl⟩
  obtain ⟨s', horiginate, hsetup, hnow, hnodes, hframes⟩ := horiginate
  refine ⟨m, s', { n with device := d }, hm, hcarries, horiginate,
    ⟨hsetup, hnow, ?_, hframes, ?_, ?_, rfl, hresembles, hrouter, hradio⟩⟩
  · rw [hnodes]
    exact length_setDevice s sender d
  · intro j hj
    rw [hnodes]
    exact nodes_setDevice_ne s (Ne.symm hj) d
  · rw [hnodes]
    exact nodes_setDevice_self hn d

/-! ## A small mesh -/

def sampleKey : MeshKey := ⟨Bytes.block 32 []⟩

def sampleDraws : Draws := { source := fun _ _ => [] }

def sampleStart (c : Config) : Device where
  config := c
  radio := {}
  storage := {}
  router := .create c
  inclusion := .create c
  keys := { provider := .software }

/-- A device whose application listens. -/
def sampleListener (c : Config) : Device :=
  (Device.Deed.listen.perform (sampleStart c, sampleDraws)).1

/-- The device once it was given a key. -/
def sampleDevice (c : Config) : Device :=
  ((Device.Deed.operate (.provision sampleKey)).perform (sampleListener c, sampleDraws)).1

/-- Two devices that hear each other wherever they are. -/
def sampleMesh : Simulation where
  setup := { medium := { sensitivity := -1.0 / 0.0 } }
  draws := sampleDraws
  nodes := [
    ⟨sampleDevice (.standard ⟨1⟩), ⟨0, 0⟩, 0, 0⟩,
    ⟨sampleDevice (.standard ⟨2⟩), ⟨100, 0⟩, 0, 0⟩]

theorem reachable_sampleDevice {c : Config} (hvalid : c.validate = .ok ()) :
    Device.Reachable c (sampleDevice c) := by
  have hcreate : Device.create c {} {} .software = .ok (sampleStart c) :=
    Device.create_of_validate hvalid {} {} .software
  have hlistener : Device.Reachable c (sampleListener c) :=
    .deed .listen sampleDraws (.create {} {} .software hcreate)
  exact .deed (.operate (.provision sampleKey)) sampleDraws hlistener

theorem not_lt_bottom (x : Float) : ¬x < -1.0 / 0.0 := by
  have hbottom : (-1.0 / 0.0 : Float).toModel.unpack = .infinity .negative := rfl
  intro hlt
  change decide (x.toModel.unpack.lt (-1.0 / 0.0 : Float).toModel.unpack = true) = true at hlt
  rw [hbottom, decide_eq_true_iff] at hlt
  unfold Float.Model.UnpackedFloat.lt at hlt
  cases hx : x.toModel.unpack with
  | infinity sign =>
    rw [hx] at hlt
    cases sign with
    | negative => cases hlt
    | positive => cases hlt
  | _ =>
    rw [hx] at hlt
    cases hlt

theorem sampleMesh_reaches {i j : Nat} (hi : i < 2) (hj : j < 2) (hne : j ≠ i) :
    sampleMesh.Reaches i j := by
  refine ⟨hne, _, _, List.getElem?_eq_getElem hi, List.getElem?_eq_getElem hj, ?_⟩
  exact congrArg (!·) (decide_eq_false (not_lt_bottom _))

theorem sampleMesh_symmetric {i j : Nat} (h : sampleMesh.Reaches i j) : sampleMesh.Reaches j i := by
  obtain ⟨a, ha⟩ := h.exists_sender
  obtain ⟨hi, _⟩ := List.getElem?_eq_some_iff.mp ha
  exact sampleMesh_reaches h.receiver_lt hi (Ne.symm h.1)

theorem sampleMesh_atDistance : AtDistance sampleMesh.Reaches 0 1 1 := by
  refine ⟨.step (.stay 0) (sampleMesh_reaches (by decide) (by decide) (by decide)), ?_⟩
  intro count hwalk
  cases count with
  | zero => exact absurd hwalk.eq_of_zero (by decide)
  | succ count => exact Nat.succ_le_succ (Nat.zero_le count)

theorem forall_sampleMesh {P : SimNode → Prop} (h : ∀ id : NodeId, id = ⟨1⟩ ∨ id = ⟨2⟩ →
    ∀ place, P ⟨sampleDevice (.standard id), place, 0, 0⟩) : ∀ n ∈ sampleMesh.nodes, P n := by
  intro n hn
  rcases List.mem_cons.mp hn with rfl | hn
  · exact h _ (.inl rfl) _
  · rw [List.mem_singleton.mp hn]
    exact h _ (.inr rfl) _

theorem sampleMesh_assembled : sampleMesh.Assembled .initial .software sampleKey := by
  refine ⟨by decide +kernel, forall_sampleMesh ?_, forall_sampleMesh ?_, forall_sampleMesh ?_,
    forall_sampleMesh ?_, forall_sampleMesh ?_, forall_sampleMesh ?_⟩
  · rintro id hid place
    refine reachable_sampleDevice ?_
    rcases hid with rfl | rfl <;> rfl
  · exact fun id hid place => rfl
  · exact fun id hid place => rfl
  · exact fun id hid place => ⟨⟨rfl, rfl⟩, rfl, rfl, fun _ => rfl⟩
  · exact fun id hid place => rfl
  · exact fun id hid place => rfl

end Simulation
end Meshwork
