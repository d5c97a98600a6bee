import Meshwork.Error.Code
import Meshwork.Simulation.Topology
import Meshwork.Text.Mended

/-! # Reports

What an observer is told of packets, devices and simulations, as JSON. Bytes
are hexadecimal, identifiers are their eight digits, and measurements have six
places. Handshakes of one device that time out in a row are listed by peer. -/

namespace Meshwork.Report
set_option autoImplicit false

def text (s : String) : Json := .string (Bytes.ofText s)

def nat (n : Nat) : Json := .integer n

def hex (bs : Bytes) : Json := text (Hex.encode bs)

def node (id : NodeId) : Json := text id.text

def measure (x : Float) : Json := text (Decimal.fixed 6 x)

def optional {α : Type} (f : α → Json) : Option α → Json
  | some value => f value
  | none => .null

def list {α : Type} (f : α → Json) (values : List α) : Json := .array (values.map f)

def object (fields : List (String × Json)) : Json :=
  .object (fields.map fun f => (Bytes.ofText f.1, f.2))

def error (code message : String) : Json :=
  object [("error", text code), ("message", text message)]

def failure (e : MeshError) : Json := error e.code e.message

/-- Why a handshake ended; that it is one goes without saying. -/
def refusal (e : InclusionError) : Json := error e.code e.message

def delivery (d : Delivery) : Json :=
  object
    [("source", node d.source), ("destination", node d.destination),
     ("topic", text d.topic.name), ("packet_id", nat d.packetId.toNat),
     ("hop_count", nat d.hopCount.toNat), ("payload", hex d.payload)]

def packet (p : Packet) : Json :=
  object
    [("source", node p.source), ("destination", node p.destination),
     ("topic", text p.topic.name), ("packet_id", nat p.packetId.toNat),
     ("hop_count", nat p.hopCount.toNat), ("last_hop", node p.lastHop),
     ("next_hop", node p.nextHop), ("payload", hex p.payload)]

def route (r : Route) : Json :=
  .array
    [node r.destination, node r.nextHop, nat r.hopCount.toNat, .integer r.rssi.toInt,
     nat r.lastSeen]

def routes (t : RouteTable) : Json := list route t.routes

def stats (s : MeshStats) : Json := list nat s.values

def key (k : KeyRing) : Json := optional (fun key : MeshKey => hex key.toBytes) k.key

def router (r : Router) : Json :=
  object [("routes", routes r.table), ("tracked", nat r.tracker.size), ("stats", stats r.stats)]

/-- A stored value as far as it can be read. -/
def readable (f : Bytes → Json) (s : Storage) (key : String) : Json :=
  match s.readOptional key with
  | .ok value => optional f value
  | .error _ => .null

/-- The routes are shown as the text they are stored as, the rest as bytes. -/
def stored (s : Storage) : Json :=
  object
    [("mk", readable hex s Storage.meshKey), ("is", readable hex s Storage.inclusionState),
     ("rt", readable (fun bs => .string (Mended.mend bs)) s Storage.routes)]

def device (d : Device) : List (String × Json) :=
  [("state", text d.state.label), ("open", .bool d.inclusion.accepting),
   ("sessions", nat d.inclusion.activeSessions), ("key", key d.keys),
   ("installs", nat d.keys.installs.toNat), ("router", router d.router),
   ("stored", stored d.storage), ("pending", nat d.radio.pending)]

def event : InclusionEvent → Json
  | .included peer => object [("included", node peer)]
  | .failed peer reason => object [("failed", node peer), ("reason", refusal reason)]

/-- Puts a value behind those at the front that precede it. -/
def insertBehind {α : Type} (precedes : α → α → Bool) (a : α) : List α → List α
  | [] => [a]
  | b :: rest => if precedes b a then b :: insertBehind precedes a rest else a :: b :: rest

/-- Sorts every run of neighbours that can be compared. -/
def sortRuns {α : Type} (precedes : α → α → Bool) (values : List α) : List α :=
  values.foldr (insertBehind precedes) []

/-- The order of timeouts, by peer; no other results have one. -/
def timedOutBefore : InclusionEvent → InclusionEvent → Bool
  | .failed a .timeout, .failed b .timeout => a.value < b.value
  | _, _ => false

def events (results : List InclusionEvent) : Json :=
  list event (sortRuns timedOutBefore results)

def position (p : Position) : Json := .array [measure p.x, measure p.y]

def nodeStats (n : NodeStats) : Json :=
  .array
    [nat n.nodeId.value.toNat, nat n.messagesSent, nat n.messagesReceived, nat n.framesRelayed,
     nat n.routes]

def simulation (s : SimStats) : Json :=
  object
    [("sent", nat s.messagesSent), ("delivered", nat s.messagesDelivered),
     ("tx", nat s.framesTransmitted), ("rx", nat s.framesReceived), ("lost", nat s.framesLost),
     ("avg_hops", measure s.averageHops), ("rate", measure s.deliveryRate),
     ("nodes", list nodeStats s.perNode)]

def simEvent : SimEvent → Json
  | .nodeJoined index id place => .array [text "joined", nat index, node id, position place]
  | .messageSent index packetId destination =>
    .array [text "sent", nat index, nat packetId.toNat, node destination]
  | .frameTransmitted index size => .array [text "frame", nat index, nat size]
  | .frameLost sender receiver rssi =>
    .array [text "lost", nat sender, nat receiver, measure rssi]
  | .messageDelivered index source packetId hops =>
    .array [text "delivered", nat index, node source, nat packetId.toNat, nat hops.toNat]
  | .inclusion index e => .array [text "inclusion", nat index, event e]

/-- The log keeps the order in which things happened. -/
def simEvents (log : List SimEvent) : Json := list simEvent log

end Meshwork.Report
