import Meshwork.Proofs.Device.Messages

/-!
# Deliveries of a mesh

Any number of devices, one for each identifier. Whoever is between them may bring
any bytes to any device at any time, keep frames back and bring them twice: a run
says what is done with which device and nothing of the air. If nobody else seals
under the mesh key, every delivery was originated by the node that it names.
-/

namespace Meshwork
set_option autoImplicit false

/-- A run of devices. In each move something is done with one of them. -/
structure Mesh where
  start : NodeId → Device
  node : Nat → NodeId
  deed : Nat → Device.Deed
  draws : Nat → Draws

namespace Mesh

/-- A device before the move with this number. -/
def device (m : Mesh) : Nat → NodeId → Device
  | 0, n => m.start n
  | i + 1, n =>
    if n = m.node i then ((m.deed i).perform (m.device i n, m.draws i)).1 else m.device i n

/-- What the application of a device has been given. -/
def handed (m : Mesh) (i : Nat) (n : NodeId) : List Delivery := (m.device i n).router.handed

structure Starts (m : Mesh) : Prop where
  nodeId : ∀ n, (m.start n).router.nodeId = n
  handed : ∀ n, m.handed 0 n = []

/-- No device ever holds another mesh key. -/
def Shares (m : Mesh) (key : MeshKey) : Prop :=
  ∀ i n other, (m.device i n).keys.key = some other → other = key

def Opens (m : Mesh) (i : Nat) (key : MeshKey) (aad text blob : Bytes) : Prop :=
  (m.device i (m.node i)).Opens (m.deed i) key aad text blob

def Seals (m : Mesh) (i : Nat) (key : MeshKey) (aad text blob : Bytes) : Prop :=
  (m.device i (m.node i)).Seals (m.draws i) (m.deed i) key aad text blob

/-- What opens under a key was sealed under it by some device before. -/
def Unforged (m : Mesh) (key : MeshKey) : Prop :=
  ∀ i aad text blob, m.Opens i key aad text blob →
    ∃ j, j < i ∧ m.Seals j key aad text blob

/-- The source of a delivery makes the message. -/
def Originates (m : Mesh) (i : Nat) (d : Delivery) : Prop :=
  m.node i = d.source ∧ ∃ p, (m.device i (m.node i)).Originates (m.draws i) (m.deed i) p d.payload ∧
    p.destination = d.destination ∧ p.topic = d.topic ∧ p.packetId = d.packetId

def Hands (m : Mesh) (i : Nat) (n : NodeId) (d : Delivery) : Prop :=
  m.node i = n ∧ m.handed (i + 1) n = m.handed i n ++ [d]

variable {m : Mesh} {key : MeshKey} {i : Nat} {n : NodeId} {d : Delivery}

theorem device_succ (m : Mesh) (i : Nat) (n : NodeId) :
    m.device (i + 1) n =
      if n = m.node i then ((m.deed i).perform (m.device i n, m.draws i)).1 else m.device i n :=
  rfl

theorem device_mover {operation : Device.Operation} (hn : m.node i = n)
    (hdeed : m.deed i = .operate operation) :
    m.device (i + 1) n = (operation.perform (m.device i n, m.draws i)).1 := by
  rw [device_succ, if_pos hn.symm, hdeed]
  rfl

theorem device_other (hn : m.node i ≠ n) : m.device (i + 1) n = m.device i n :=
  if_neg fun h => hn h.symm

theorem handed_of_eq {e : Device} (h : m.device i n = e) : m.handed i n = e.router.handed := by
  rw [handed, h]

/-- A move leaves all applications alone, or gives one delivery to the one whose
device has heard and opened it. -/
theorem step_cases (m : Mesh) (i : Nat) (n : NodeId) :
    (m.device i n).router.Quiet (m.device (i + 1) n).router ∨
      ∃ p key text, n = m.node i ∧ p.topic.isCanonical = true ∧
        m.Opens i key p.associatedData text p.payload ∧
        p.topic.isInclusion = false ∧ p.topic.isReserved = false ∧
        (m.device (i + 1) n).router.nodeId = (m.device i n).router.nodeId ∧
        m.handed (i + 1) n = m.handed i n ++ [Delivery.ofPacket p text] := by
  by_cases hn : n = m.node i
  · have hcases := (m.device i n).deed_cases (m.draws i) (m.deed i)
    unfold handed
    rw [device_succ, if_pos hn]
    rcases hcases with hquiet |
      ⟨p, key, text, hcanonical, hopens, hplain, hknown, hnode, hhanded⟩
    · exact Or.inl hquiet
    · rw [hn] at hopens
      exact Or.inr ⟨p, key, text, hn, hcanonical, hopens, hplain, hknown, hnode, hhanded⟩
  · left
    rw [device_succ, if_neg hn]
    exact Router.Quiet.refl _

theorem nodeId_device (hstart : m.Starts) (i : Nat) (n : NodeId) :
    (m.device i n).router.nodeId = n := by
  induction i with
  | zero => exact hstart.nodeId n
  | succ i ih =>
    rcases m.step_cases i n with hquiet | ⟨_, _, _, _, _, _, _, _, hnode, _⟩
    · exact hquiet.nodeId.trans ih
    · exact hnode.trans ih

/-- What a device opens is the message of the node that the header names. -/
theorem originates_of_opens {p : Packet} {text : Bytes} (hstart : m.Starts)
    (hsafe : m.Unforged key) (hcanonical : p.topic.isCanonical = true)
    (hplain : p.topic.isInclusion = false)
    (hopens : m.Opens i key p.associatedData text p.payload) :
    ∃ j, j < i ∧ m.Originates j (Delivery.ofPacket p text) := by
  obtain ⟨j, hji, hseals⟩ := hsafe i _ _ _ hopens
  refine ⟨j, hji, ?_⟩
  unfold Seals at hseals
  generalize haad : p.associatedData = aad at hseals
  generalize p.payload = blob at hseals
  cases hseals with
  | @message q _ hkey horiginates =>
    obtain ⟨hsource, hq⟩ := horiginates.header
    obtain ⟨hsame, hdestination, htopic, hid⟩ := Packet.associatedData_inj hcanonical hq haad
    rw [nodeId_device hstart] at hsource
    exact ⟨hsource.symm.trans hsame.symm, q, horiginates, hdestination.symm, htopic.symm, hid.symm⟩
  | @handshake q _ hreplies hseal =>
    -- the topic of a handshake would have been heard as one
    have hq := hreplies.topic
    have hsame := Packet.associatedData_inj hcanonical (Topic.isCanonical_of_isInclusion hq) haad
    rw [← hsame.2.2.1, hplain] at hq
    cases hq

/-- Whatever happens between the devices of a mesh, as long as nobody else seals
under the mesh key that they share: each delivery that an application is given was
originated before by the very node that it names as its source, for the
destination, on the topic, with the identifier and of the text that it says. No
delivery is of a handshake or has a topic without a meaning. -/
theorem delivered_of_originated (hstart : m.Starts) (hshare : m.Shares key)
    (hsafe : m.Unforged key) (hd : d ∈ m.handed i n) :
    d.topic.isInclusion = false ∧ d.topic.isReserved = false ∧
      ∃ j t, j < t ∧ t < i ∧ m.Hands t n d ∧ m.Originates j d := by
  induction i with
  | zero =>
    rw [hstart.handed n] at hd
    cases hd
  | succ i ih =>
    have hearlier : d ∈ m.handed i n → d.topic.isInclusion = false ∧ d.topic.isReserved = false ∧
        ∃ j t, j < t ∧ t < i + 1 ∧ m.Hands t n d ∧ m.Originates j d := by
      intro hbefore
      obtain ⟨hplain, hknown, j, t, hjt, hti, hrest⟩ := ih hbefore
      exact ⟨hplain, hknown, j, t, hjt, Nat.lt_succ_of_lt hti, hrest⟩
    rcases m.step_cases i n with hquiet |
      ⟨p, other, text, hn, hcanonical, hopens, hplain, hknown, _, hhanded⟩
    · have hsame : m.handed (i + 1) n = m.handed i n := hquiet.handed
      rw [hsame] at hd
      exact hearlier hd
    · rw [hhanded] at hd
      rcases List.mem_append.mp hd with hbefore | hnew
      · exact hearlier hbefore
      · obtain rfl := List.mem_singleton.mp hnew
        obtain rfl := hshare i (m.node i) other hopens.1
        obtain ⟨j, hji, horiginates⟩ := originates_of_opens hstart hsafe hcanonical hplain hopens
        exact ⟨hplain, hknown, j, i, hji, Nat.lt_succ_self i, ⟨hn.symm, hhanded⟩, horiginates⟩

/-! ## Two devices -/

def sampleKey : MeshKey := ⟨Bytes.block 32 [7]⟩

def sampleDraws : Draws := { source := fun _ _ => [] }

def sampleTopic : Topic := .application 0x20

/-- A device that has the key, and an application that listens. -/
def sampleStart (n : NodeId) : Device where
  config := .standard n
  radio := {}
  storage := {}
  router := { Router.create (.standard n) with hasHandler := true }
  inclusion := { Inclusion.create (.standard n) with state := .included }
  keys := { provider := .transparent, key := some sampleKey }

def sampleHeader : Packet := .fresh ⟨1⟩ ⟨2⟩ sampleTopic [] 0

def samplePacket : Packet :=
  { sampleHeader with
    payload := CryptoProvider.label sampleKey sampleHeader.associatedData ++ [4, 2] }

def sampleFrame : Bytes := Packet.sealBody samplePacket.body

/-- One device sends, and the frame is brought to the other. -/
def sampleMesh : Mesh where
  start := sampleStart
  node i := if i = 0 then ⟨1⟩ else ⟨2⟩
  deed
    | 0 => .operate (.send ⟨2⟩ sampleTopic [4, 2] 0)
    | 1 => .operate (.processFrame sampleFrame 1)
    | _ => .operate .disableInclusion
  draws _ := sampleDraws

theorem sampleFrame_encode : samplePacket.encode = .ok sampleFrame :=
  Packet.encode_eq_ok_iff.mpr ⟨rfl, by decide +kernel, rfl⟩

theorem sampleMesh_starts : sampleMesh.Starts := ⟨fun _ => rfl, fun _ => rfl⟩

theorem sampleMesh_key (i : Nat) (n : NodeId) :
    (sampleMesh.device i n).keys.key = some sampleKey := by
  induction i with
  | zero => rfl
  | succ i ih =>
    by_cases hn : sampleMesh.node i = n
    · match i with
      | 0 =>
        rw [device_mover hn rfl]
        exact Device.holds_send (P := fun _ k => k.key = some sampleKey) _ _ _ _ _ ih
      | 1 =>
        have hhas : (sampleMesh.device 1 n).keys.hasKey = true := congrArg Option.isSome ih
        rw [device_mover hn rfl, Device.perform_processFrame, Device.keys_processFrame hhas]
        exact ih
      | _ + 2 =>
        rw [device_mover hn rfl]
        exact ih
    · rw [device_other hn]
      exact ih

theorem sampleMesh_shares : sampleMesh.Shares sampleKey := by
  intro i n other hother
  rw [sampleMesh_key] at hother
  exact (Option.some.inj hother).symm

theorem sampleMesh_composes : (Station.compose
    { router := (sampleStart ⟨1⟩).router, radio := (sampleStart ⟨1⟩).radio, draws := sampleDraws }
    ⟨2⟩ sampleTopic [4, 2] (sampleStart ⟨1⟩).keys).1.toOption = some samplePacket := by
  decide +kernel

theorem samplePacket_opens : (CryptoProvider.transparent.unsealText sampleKey
    samplePacket.associatedData samplePacket.payload).toOption = some [4, 2] := by
  decide +kernel

theorem eq_ok_of_toOption {ε α : Type} {result : Except ε α} {a : α}
    (h : result.toOption = some a) : result = .ok a := by
  cases result with
  | error e => cases h
  | ok b =>
    cases h
    rfl

theorem sampleMesh_originates :
    (sampleStart ⟨1⟩).Originates sampleDraws (.operate (.send ⟨2⟩ sampleTopic [4, 2] 0))
      samplePacket [4, 2] :=
  .sent rfl rfl rfl (eq_ok_of_toOption sampleMesh_composes)

theorem sampleMesh_device : sampleMesh.device 1 ⟨2⟩ = sampleStart ⟨2⟩ :=
  device_other (by decide)

theorem sampleMesh_unforged : sampleMesh.Unforged sampleKey := by
  rintro i aad text blob ⟨_, operation, m, frame, now, p, hdeed, hheard, hdecode, rfl, rfl, hopen⟩
  match i with
  | 0 =>
    cases hdeed
    cases hheard
  | 1 =>
    cases hdeed
    cases hheard
    rw [Packet.decode_eq_ok_iff_encode.mpr sampleFrame_encode] at hdecode
    cases hdecode
    have hdevice : sampleMesh.device 1 (sampleMesh.node 1) = sampleStart ⟨2⟩ := sampleMesh_device
    rw [hdevice] at hopen
    have htext : some text = some [4, 2] :=
      (congrArg Except.toOption hopen).symm.trans samplePacket_opens
    cases htext
    exact ⟨0, Nat.one_pos, .message rfl sampleMesh_originates⟩
  | _ + 2 =>
    cases hdeed
    cases hheard

theorem sampleMesh_device_end :
    sampleMesh.device 2 ⟨2⟩ = (sampleStart ⟨2⟩).attend samplePacket 1 sampleDraws := by
  have hmove : sampleMesh.device 2 ⟨2⟩ = (Device.Operation.perform
      (sampleMesh.device 1 ⟨2⟩, sampleMesh.draws 1) (.processFrame sampleFrame 1)).1 :=
    device_mover rfl rfl
  rw [hmove, sampleMesh_device, Device.perform_of_encode sampleFrame_encode rfl]
  rfl

theorem sampleMesh_handed : Delivery.ofPacket samplePacket [4, 2] ∈ sampleMesh.handed 2 ⟨2⟩ := by
  have hattend : Delivery.ofPacket samplePacket [4, 2] ∈
      ((sampleStart ⟨2⟩).attend samplePacket 1 sampleDraws).router.handed := by
    decide +kernel
  rw [handed_of_eq sampleMesh_device_end]
  exact hattend

theorem delivered_of_originated_sample :
    sampleTopic.isInclusion = false ∧ sampleTopic.isReserved = false ∧
      ∃ j t, j < t ∧ t < 2 ∧ sampleMesh.Hands t ⟨2⟩ (Delivery.ofPacket samplePacket [4, 2]) ∧
        sampleMesh.Originates j (Delivery.ofPacket samplePacket [4, 2]) :=
  delivered_of_originated sampleMesh_starts sampleMesh_shares sampleMesh_unforged sampleMesh_handed

end Mesh
end Meshwork
