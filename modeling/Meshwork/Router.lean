import Meshwork.Config
import Meshwork.Duplicates
import Meshwork.KeyRing
import Meshwork.Packet.Frame
import Meshwork.Route.Table
import Meshwork.Text.Record

/-! # The router

A router screens every frame it hears: damaged ones, those meant for another
relay, those seen before and its own echoes go no further. Whatever else passes
teaches it routes, to the source through the node that sent the copy and to
that node itself. -/

namespace Meshwork
set_option autoImplicit false

inductive DropReason where
  | invalidLength
  | packetCorrupted
  | duplicate
  | maxHops
  /-- The echo of a frame of this node. -/
  | ownPacket
  /-- Another neighbour is to relay the frame. -/
  | notNextHop
  | relayDisabled
  | unauthenticated
  /-- A protocol topic without a meaning. -/
  | unsupportedTopic
  /-- Handshake traffic, which is not routed. -/
  | handshakeTopic
  | inclusionRejected
deriving DecidableEq, Repr

inductive RouteOutcome where
  | deliveredLocally
  | forwarded (nextHop : NodeId)
  /-- Relayed to whoever hears it. -/
  | rebroadcast
  | dropped (reason : DropReason)
deriving DecidableEq, Repr

structure Delivery where
  source : NodeId
  destination : NodeId
  topic : Topic
  packetId : UInt32
  /-- Hops travelled before the frame was heard here. -/
  hopCount : UInt8
  payload : Bytes
deriving DecidableEq, Repr

structure MeshStats where
  /-- Frames heard. -/
  received : Nat := 0
  /-- Frames sent, its own and relayed ones. -/
  sent : Nat := 0
  delivered : Nat := 0
  forwarded : Nat := 0
  rebroadcast : Nat := 0
  duplicates : Nat := 0
  corrupted : Nat := 0
  hopLimitExceeded : Nat := 0
  unauthenticated : Nat := 0
  /-- Routes put into the table. -/
  learned : Nat := 0
deriving DecidableEq, Repr

structure Router where
  nodeId : NodeId
  maxHops : UInt8
  relayEnabled : Bool
  tracker : DuplicateTracker
  table : RouteTable
  stats : MeshStats := {}
  hasHandler : Bool := false
  handed : List Delivery := []
deriving DecidableEq

def DropReason.label : DropReason → String
  | invalidLength => "InvalidLength"
  | packetCorrupted => "PacketCorrupted"
  | duplicate => "Duplicate"
  | maxHops => "MaxHops"
  | ownPacket => "OwnPacket"
  | notNextHop => "NotNextHop"
  | relayDisabled => "RelayDisabled"
  | unauthenticated => "Unauthenticated"
  | unsupportedTopic => "UnsupportedTopic"
  | handshakeTopic => "HandshakeTopic"
  | inclusionRejected => "InclusionRejected"

def RouteOutcome.label : RouteOutcome → String
  | deliveredLocally => "DeliveredLocally"
  | forwarded nextHop => "Forwarded:" ++ nextHop.text
  | rebroadcast => "Rebroadcast"
  | dropped reason => "Dropped:" ++ reason.label

def DropReason.ofDecoding : PacketError → DropReason
  | .corrupted _ _ => .packetCorrupted
  | _ => .invalidLength

def Delivery.ofPacket (p : Packet) (payload : Bytes) : Delivery where
  source := p.source
  destination := p.destination
  topic := p.topic
  packetId := p.packetId
  hopCount := p.hopCount
  payload := payload

namespace MeshStats

def values (s : MeshStats) : List Nat :=
  [s.received, s.sent, s.delivered, s.forwarded, s.rebroadcast, s.duplicates, s.corrupted,
   s.hopLimitExceeded, s.unauthenticated, s.learned]

def describe (s : MeshStats) : String :=
  Record.describe "MeshStats"
    (["packets_rx", "packets_tx", "delivered", "forwarded", "rebroadcast", "duplicates_dropped",
      "corrupted", "hop_limit_exceeded", "unauthenticated", "routes_learned"].zip
      (s.values.map Record.nat))

end MeshStats

namespace Router

def create (c : Config) : Router where
  nodeId := c.nodeId
  maxHops := c.maxHops
  relayEnabled := c.relayEnabled
  tracker := .create c.dedupWindow.toNat c.dedupCapacity.toNat
  table := .create c.routeTimeout.toNat c.maxRoutes.toNat

/-- Registers the application, which may be done once. -/
def listen (r : Router) : Except MeshError Router :=
  if r.hasHandler then .error (.invalidState "delivery handler already registered")
  else .ok { r with hasHandler := true }

def sweep (r : Router) (now : Nat) : Router :=
  { r with tracker := (r.tracker.evictExpired now).2, table := (r.table.expire now).2 }

/-- Offers a route to the table and counts it if it is taken. -/
def offer (r : Router) (destination nextHop : NodeId) (hopCount : UInt8) (rssi : Int16)
    (now : Nat) : Router :=
  match r.table.update destination nextHop hopCount rssi now with
  | (.kept, _) => r
  | (_, table) => { r with table := table, stats.learned := r.stats.learned + 1 }

/-- Learns the way to the source, if it is near enough to be of use. -/
def learnSource (r : Router) (p : Packet) (rssi : Int16) (now : Nat) : Router :=
  if p.hopCount.toNat < r.maxHops.toNat - 1 then
    r.offer p.source p.lastHop (p.hopCount + 1) rssi now
  else r

/-- Learns that the relay which sent this copy is a neighbour. -/
def learnRelay (r : Router) (p : Packet) (rssi : Int16) (now : Nat) : Router :=
  if p.lastHop ≠ p.source ∧ p.lastHop ≠ r.nodeId ∧ !p.lastHop.isReserved then
    r.offer p.lastHop p.lastHop 1 rssi now
  else r

def learn (r : Router) (p : Packet) (rssi : Int16) (now : Nat) : Router :=
  (r.learnSource p rssi now).learnRelay p rssi now

/-- Whether a frame is on its way through another relay. -/
def isOverheard (r : Router) (p : Packet) : Bool :=
  !p.topic.isInclusion && !p.isBroadcast && p.destination != r.nodeId
    && p.nextHop != r.nodeId && !p.nextHop.isBroadcast

/-- Learns from a frame on its way through another relay, and leaves the
message unrecorded for when the frame is handed to this node. -/
def overhear (r : Router) (p : Packet) (rssi : Int16) (now : Nat) : Router :=
  if p.source ≠ r.nodeId ∧ !r.tracker.contains p.key now then r.learn p rssi now else r

def screenPacket (r : Router) (p : Packet) (rssi : Int16) (now : Nat) :
    Except DropReason Packet × Router :=
  if r.isOverheard p then (.error .notNextHop, r.overhear p rssi now)
  else
    match r.tracker.observe p.key now with
    | (.duplicate, _) =>
      (.error .duplicate, { r with stats.duplicates := r.stats.duplicates + 1 })
    | (.fresh, tracker) =>
      let r := { r with tracker := tracker }
      if p.source = r.nodeId then (.error .ownPacket, r) else (.ok p, r.learn p rssi now)

def screen (r : Router) (frame : Bytes) (rssi : Int16) (now : Nat) :
    Except DropReason Packet × Router :=
  let r := { r with stats.received := r.stats.received + 1 }
  match Packet.decode frame with
  | .error e =>
    (.error (DropReason.ofDecoding e), { r with stats.corrupted := r.stats.corrupted + 1 })
  | .ok p => r.screenPacket p rssi now

/-- Hands a payload to the application, if one has registered. -/
def hand (r : Router) (d : Delivery) : Router :=
  { r with
    handed := if r.hasHandler then r.handed ++ [d] else r.handed
    stats.delivered := r.stats.delivered + 1 }

/-- A node that says goodbye is no longer reached through anybody. -/
def heedBye (r : Router) (p : Packet) : Router :=
  if p.topic = .bye then { r with table := (r.table.remove p.source).2 } else r

/-- Opens the payload of a packet and hands it to the application. -/
def deliver (r : Router) (p : Packet) (keys : KeyRing) : Except DropReason Unit × Router :=
  if p.topic.isReserved then (.error .unsupportedTopic, r)
  else
    match keys.unsealText p.associatedData p.payload with
    | .error _ =>
      (.error .unauthenticated, { r with stats.unauthenticated := r.stats.unauthenticated + 1 })
    | .ok payload => (.ok (), (r.heedBye p).hand (Delivery.ofPacket p payload))

/-- The next hop towards a destination, everybody if no route is known. -/
def nextHop (r : Router) (destination : NodeId) : NodeId :=
  match r.table.lookup destination with
  | some route => route.nextHop
  | none => .broadcast

def describe (r : Router) : String :=
  Record.describe "Router"
    [("node_id", r.nodeId.describe), ("max_hops", Record.nat r.maxHops.toNat),
     ("relay_enabled", Record.bool r.relayEnabled), ("routes", Record.nat r.table.size),
     ("tracked", Record.nat r.tracker.size), ("stats", r.stats.describe)]

end Router
end Meshwork
