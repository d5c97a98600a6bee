import Meshwork.Chance
import Meshwork.CommandLine.Command
import Meshwork.CommandLine.Transcript
import Meshwork.Simulation.Topology

/-! # Simulated traffic

Messages between nodes chosen by chance, each given some steps to arrive. What
came of them is told in lines or as one JSON object. -/

namespace Meshwork.CommandLine
set_option autoImplicit false

def setup (template : Config) (seed : UInt64) : SimSetup := { seed := seed, mesh := template }

/-- The mesh of a plan. Neighbours on a line are well within reach. -/
def place (plan : TrafficPlan) (setup : SimSetup) (draws : Draws) : Except MeshError Simulation :=
  match plan.layout with
  | .line =>
    Simulation.line setup draws plan.nodes (plan.spacing.getD (setup.medium.maxRange * 0.8))
  | .random => Simulation.random setup draws plan.nodes plan.area plan.area

/-- The mesh of a plan with one key for all. -/
def prepare (template : Config) (plan : TrafficPlan) (draws : Draws) :
    Except CommandError Simulation :=
  if plan.nodes < 2 then .error (.tooFewNodes plan.nodes)
  else
    match place plan (setup template plan.seed) draws with
    | .error e => .error (.mesh e)
    | .ok s =>
      match s.provisionAll with
      | (.error e, _) => .error (.mesh e)
      | (.ok (), s) => .ok s

/-- Sends as many messages as remain. One that cannot be sent gets no steps,
and a step that fails ends those of its message. -/
def exchange (nodes steps : Nat) : Nat → Nat → Chance → Simulation → Simulation
  | 0, _, _, s => s
  | remaining + 1, index, chance, s =>
    let ((sender, receiver), chance) := chance.pairBelow nodes
    match s.send sender receiver .cmd (Bytes.ofText ("Message " ++ toString index)) with
    | (.error _, s) => exchange nodes steps remaining (index + 1) chance s
    | (.ok _, s) => exchange nodes steps remaining (index + 1) chance (s.run steps).2

def placeLine (n : SimNode) : String :=
  "  - " ++ n.device.nodeId.text ++ " at (" ++ Decimal.fixed 0 n.position.x ++ ", "
    ++ Decimal.fixed 0 n.position.y ++ ")"

def meshLines (plan : TrafficPlan) (s : Simulation) : List String :=
  ["=== RadioMesh Network Simulation ===",
   "",
   "Nodes:        " ++ toString plan.nodes,
   "Messages:     " ++ toString plan.messages,
   "Layout:       " ++ plan.layout.label,
   "Radio range:  " ++ Decimal.fixed 0 s.setup.medium.maxRange ++ " m",
   "Connected:    " ++ Record.bool s.isConnected,
   "",
   "Created " ++ toString plan.nodes ++ " nodes:"]
    ++ s.nodes.map placeLine ++ [""]

def nodeLine (entry : NodeStats × Nat) : String :=
  let (n, index) := entry
  "  Node " ++ Transcript.columnRight 2 index ++ " (" ++ n.nodeId.text ++ "): TX="
    ++ toString n.messagesSent ++ " RX=" ++ toString n.messagesReceived ++ " relayed="
    ++ toString n.framesRelayed ++ " routes=" ++ toString n.routes

def summaryLines (s : Simulation) : List String :=
  ["",
   "=== Mesh Simulation Summary ===",
   "Steps: " ++ toString s.stepCount.toNat ++ " (" ++ toString s.now.toNat ++ " ms simulated)",
   "Nodes: " ++ toString s.nodes.length,
   "",
   "Messages:",
   "  Sent: " ++ toString s.stats.messagesSent,
   "  Delivered: " ++ toString s.stats.messagesDelivered,
   "  Delivery rate: " ++ Decimal.fixed 1 (s.stats.deliveryRate * 100) ++ "%",
   "  Average hops: " ++ Decimal.fixed 2 s.stats.averageHops,
   "",
   "Frames:",
   "  Transmitted: " ++ toString s.stats.framesTransmitted,
   "  Received: " ++ toString s.stats.framesReceived,
   "  Lost (range): " ++ toString s.stats.framesLost,
   "",
   "Per-node stats:"]
    ++ s.stats.perNode.zipIdx.map nodeLine

def routeLine (r : Route) : String :=
  "    -> " ++ r.destination.text ++ " via " ++ r.nextHop.text ++ " (" ++ toString r.hopCount.toNat
    ++ " hops, " ++ toString r.rssi.toInt ++ " dBm, " ++ (SignalLevel.ofRssi r.rssi).label ++ ")"

def routeLines (n : SimNode) : List String :=
  ("  " ++ n.device.nodeId.text ++ ":") :: n.device.router.table.routes.map routeLine

def object (fields : List (String × Json)) : Json :=
  .object (fields.map fun f => (Bytes.ofText f.1, f.2))

/-- A number with as many digits as it needs; what is no number is left out. -/
def real (x : Float) : Json :=
  if x.isFinite then .decimal (Bytes.ofText (Decimal.shortest (-5) x)) else .null

def nodeJson (n : NodeStats) : Json :=
  object
    [("node_id", .integer n.nodeId.value.toNat), ("messages_sent", .integer n.messagesSent),
     ("messages_received", .integer n.messagesReceived),
     ("frames_relayed", .integer n.framesRelayed), ("routes", .integer n.routes)]

def statsJson (s : SimStats) : Json :=
  object
    [("messages_sent", .integer s.messagesSent),
     ("messages_delivered", .integer s.messagesDelivered),
     ("frames_transmitted", .integer s.framesTransmitted),
     ("frames_received", .integer s.framesReceived), ("frames_lost", .integer s.framesLost),
     ("avg_hops", real s.averageHops), ("per_node", .array (s.perNode.map nodeJson))]

def trafficJson (plan : TrafficPlan) (s : Simulation) : Json :=
  object
    [("nodes", .integer plan.nodes), ("messages", .integer plan.messages),
     ("connected", .bool s.isConnected), ("radio_range_m", real s.setup.medium.maxRange),
     ("stats", statsJson s.stats)]

def simulate (template : Config) (plan : TrafficPlan) (draws : Draws) : Transcript :=
  match prepare template plan draws with
  | .error e => .ofError e
  | .ok start =>
    let s := exchange plan.nodes plan.steps plan.messages 0 (Chance.ofSeed plan.seed) start
    if plan.json then { lines := [(trafficJson plan s).lines] }
    else
      { lines := meshLines plan start ++ summaryLines s ++ ["", "Routing tables:"]
          ++ s.nodes.flatMap routeLines }

end Meshwork.CommandLine
