import Meshwork.Device
import Meshwork.Medium

/-! # Simulated meshes

Devices at their places share a medium and a clock. The simulation counts
messages and frames, and keeps a log of what happened. -/

namespace Meshwork
set_option autoImplicit false

structure SimSetup where
  medium : Medium := {}
  stepTime : UInt64 := 10
  seed : UInt64 := 42
  /-- What all devices are set up with, but for their identifiers. -/
  mesh : Config := .initial

structure NodeStats where
  nodeId : NodeId
  messagesSent : Nat := 0
  messagesReceived : Nat := 0
  framesRelayed : Nat := 0
  routes : Nat := 0
deriving DecidableEq

structure SimStats where
  messagesSent : Nat := 0
  /-- Messages that reached their destination, or anybody if they were for all. -/
  messagesDelivered : Nat := 0
  framesTransmitted : Nat := 0
  /-- Frames heard, once for every receiver. -/
  framesReceived : Nat := 0
  /-- Frames too weak to be heard, once for every device that missed one. -/
  framesLost : Nat := 0
  /-- The mean of the hops of delivered messages. -/
  averageHops : Float := 0
  perNode : List NodeStats := []

namespace SimStats

def deliveryRate (s : SimStats) : Float :=
  if s.messagesSent = 0 then 0 else s.messagesDelivered.toFloat / s.messagesSent.toFloat

def modifyNode (s : SimStats) (index : Nat) (f : NodeStats → NodeStats) : SimStats :=
  { s with perNode := s.perNode.modify index f }

end SimStats

inductive SimEvent where
  | nodeJoined (index : Nat) (id : NodeId) (position : Position)
  | messageSent (index : Nat) (packetId : UInt32) (destination : NodeId)
  | frameTransmitted (index : Nat) (size : Nat)
  | frameLost (sender receiver : Nat) (rssi : Float)
  | messageDelivered (index : Nat) (source : NodeId) (packetId : UInt32) (hops : UInt8)
  | inclusion (index : Nat) (event : InclusionEvent)

/-- A message whose delivery is awaited, by one node or by anybody. -/
structure TrackedMessage where
  destination : Option Nat
  delivered : Bool := false
deriving DecidableEq

structure SimNode where
  device : Device
  position : Position
  /-- Deliveries that the statistics know of. -/
  seen : Nat := 0
  /-- Handshake results that the log knows of. -/
  seenInclusions : Nat := 0

structure Simulation where
  setup : SimSetup
  draws : Draws
  nodes : List SimNode := []
  tracked : List (MessageKey × TrackedMessage) := []
  now : UInt64 := 0
  stepCount : UInt64 := 0
  stats : SimStats := {}
  /-- What happened, the latest first. -/
  log : List SimEvent := []

namespace Simulation

def empty (setup : SimSetup) (draws : Draws) : Simulation := { setup := setup, draws := draws }

def note (s : Simulation) (event : SimEvent) : Simulation := { s with log := event :: s.log }

def events (s : Simulation) : List SimEvent := s.log.reverse

def device? (s : Simulation) (index : Nat) : Option Device := (s.nodes[index]?).map (·.device)

def nodeId? (s : Simulation) (index : Nat) : Option NodeId := (s.device? index).map (·.nodeId)

def indexOf? (s : Simulation) (id : NodeId) : Option Nat :=
  s.nodes.findIdx? (·.device.nodeId == id)

def setDevice (s : Simulation) (index : Nat) (d : Device) : Simulation :=
  { s with nodes := s.nodes.modify index fun n => { n with device := d } }

/-- A new device, at work at once and with its application listening. -/
def freshDevice (config : Config) (now : UInt64) : Except MeshError Device :=
  match Device.create config {} {} CryptoProvider.software with
  | .error e => .error e
  | .ok d =>
    match d.init now with
    | (.error e, _) => .error e
    | (.ok (), d) =>
      match d.listen with
      | .error e => .error e
      | .ok d => d.listenInclusion

def addNode (s : Simulation) (config : Config) (position : Position) :
    Except MeshError Nat × Simulation :=
  if (s.indexOf? config.nodeId).isSome then
    (.error (.invalidState ("duplicate node id " ++ config.nodeId.text)), s)
  else
    match freshDevice config s.now with
    | .error e => (.error e, s)
    | .ok d =>
      let index := s.nodes.length
      let s := s.note (.nodeJoined index config.nodeId position)
      (.ok index,
        { s with
          nodes := s.nodes ++ [{ device := d, position := position }]
          stats.perNode := s.stats.perNode ++ [{ nodeId := config.nodeId }] })

/-- The set-up of the device with this index; the first one is the hub. -/
def configAt (mesh : Config) (index : Nat) : Config :=
  { mesh with
    nodeId := ⟨UInt32.ofNat (index + 1)⟩
    role := if index = 0 then .hub else mesh.role }

/-- Adds devices at the given places, from this index on. -/
def addAll (s : Simulation) : Nat → List Position → Except MeshError Unit × Simulation
  | _, [] => (.ok (), s)
  | index, p :: ps =>
    match s.addNode (configAt s.setup.mesh index) p with
    | (.error e, s) => (.error e, s)
    | (.ok _, s) => s.addAll (index + 1) ps

def onLine (count : Nat) (spacing : Float) : List Position :=
  (List.range count).map fun i => ⟨i.toFloat * spacing, 0⟩

def scattered (count : Nat) (width height : Float) (seed : UInt64) : List Position :=
  (List.range count).map fun i => .random width height (seed + UInt64.ofNat i * 12345)

def build (setup : SimSetup) (draws : Draws) (positions : List Position) :
    Except MeshError Simulation :=
  match (empty setup draws).addAll 0 positions with
  | (.error e, _) => .error e
  | (.ok (), s) => .ok s

def line (setup : SimSetup) (draws : Draws) (count : Nat) (spacing : Float) :
    Except MeshError Simulation :=
  build setup draws (onLine count spacing)

def random (setup : SimSetup) (draws : Draws) (count : Nat) (width height : Float) :
    Except MeshError Simulation :=
  build setup draws (scattered count width height setup.seed)

/-- Does something on one device, and keeps what it did even if it failed. -/
def onDevice {α : Type} (s : Simulation) (index : Nat)
    (work : Device → Draws → Except MeshError α × Device × Draws) :
    Option (Except MeshError α) × Simulation :=
  match s.device? index with
  | none => (none, s)
  | some d =>
    let (result, d, draws) := work d s.draws
    (some result, { s.setDevice index d with draws := draws })

/-- Gives a mesh key to the devices that have none, in order of index. -/
def provisionFrom (s : Simulation) (key : MeshKey) : List Nat → Except MeshError Unit × Simulation
  | [] => (.ok (), s)
  | index :: rest =>
    match s.device? index with
    | none => s.provisionFrom key rest
    | some d =>
      if d.keys.hasKey then s.provisionFrom key rest
      else
        match d.provision key with
        | (.error e, d) => (.error e, s.setDevice index d)
        | (.ok (), d) => (s.setDevice index d).provisionFrom key rest

/-- Gives the hub's mesh key to all devices. The hub gets one by taking
requests for a moment. -/
def provisionAll (s : Simulation) : Except MeshError Unit × Simulation :=
  match s.onDevice 0 fun d draws => d.enableInclusion draws with
  | (none, s) => (.error (.invalidState "simulation has no nodes"), s)
  | (some (.error e), s) => (.error e, s)
  | (some (.ok ()), s) =>
    match s.device? 0 with
    | none => (.error (.invalidState "simulation has no nodes"), s)
    | some d =>
      let hub := d.disableInclusion
      let s := s.setDevice 0 hub
      match hub.keys.key with
      | none => (.error (.invalidState "hub has no mesh key"), s)
      | some key => s.provisionFrom key (List.range' 1 (s.nodes.length - 1))

/-- Starts the watch on a message, over an older one with the same key. -/
def track (s : Simulation) (key : MessageKey) (message : TrackedMessage) : Simulation :=
  { s with tracked := (key, message) :: s.tracked.filter (·.1 != key) }

def originate (s : Simulation) (sender : Nat) (destination : NodeId) (index : Option Nat)
    (topic : Topic) (payload : Bytes) : Except MeshError UInt32 × Simulation :=
  match s.onDevice sender fun d draws => d.send destination topic payload s.now draws with
  | (none, s) => (.error (.invalidState ("no node " ++ toString sender)), s)
  | (some (.error e), s) => (.error e, s)
  | (some (.ok packetId), s) =>
    let source := (s.nodeId? sender).getD .unknown
    let s := s.track (source, packetId) { destination := index }
    let stats := s.stats.modifyNode sender fun n => { n with messagesSent := n.messagesSent + 1 }
    let s := { s with stats := { stats with messagesSent := stats.messagesSent + 1 } }
    (.ok packetId, s.note (.messageSent sender packetId destination))

def send (s : Simulation) (sender receiver : Nat) (topic : Topic) (payload : Bytes) :
    Except MeshError UInt32 × Simulation :=
  match s.nodeId? receiver with
  | none => (.error (.invalidState ("no node " ++ toString receiver)), s)
  | some destination => s.originate sender destination (some receiver) topic payload

def broadcast (s : Simulation) (sender : Nat) (topic : Topic) (payload : Bytes) :
    Except MeshError UInt32 × Simulation :=
  s.originate sender .broadcast none topic payload

def describe (s : Simulation) : String :=
  let node := fun n : NodeStats => Record.describe "NodeStats"
    [("node_id", Record.nat n.nodeId.value.toNat), ("messages_sent", Record.nat n.messagesSent),
     ("messages_received", Record.nat n.messagesReceived),
     ("frames_relayed", Record.nat n.framesRelayed), ("routes", Record.nat n.routes)]
  let stats := Record.describe "SimStats"
    [("messages_sent", Record.nat s.stats.messagesSent),
     ("messages_delivered", Record.nat s.stats.messagesDelivered),
     ("frames_transmitted", Record.nat s.stats.framesTransmitted),
     ("frames_received", Record.nat s.stats.framesReceived),
     ("frames_lost", Record.nat s.stats.framesLost),
     ("avg_hops", Decimal.shortest (-4) s.stats.averageHops),
     ("per_node", Record.list (s.stats.perNode.map node))]
  Record.describePart "MeshSimulator"
    [("nodes", Record.nat s.nodes.length), ("now", Record.nat s.now.toNat), ("stats", stats)]

end Simulation
end Meshwork
