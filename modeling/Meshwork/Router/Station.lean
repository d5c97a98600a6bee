import Meshwork.Radio
import Meshwork.Router

/-! # A router at its radio

What passes the router's screen is delivered, relayed or both, and a delivery
may be answered. A refusal of the radio ends the work at hand; what the router
has noted by then stays noted. -/

namespace Meshwork
set_option autoImplicit false

structure Station where
  router : Router
  radio : Radio
  draws : Draws

namespace Station

def send (s : Station) (frame : Bytes) : Except MeshError Unit × Station :=
  match s.radio.send frame with
  | .error e => (.error (.radio e), s)
  | .ok radio =>
    (.ok (), { s with radio := radio, router.stats.sent := s.router.stats.sent + 1 })

/-- A packet of this node as it goes on the air: a unicast takes the known way. -/
def address (s : Station) (p : Packet) : Packet :=
  { p with
    lastHop := s.router.nodeId
    nextHop := if p.isBroadcast then p.nextHop else s.router.nextHop p.destination }

/-- Records a message, so that its echo is not taken for a new one. -/
def record (s : Station) (p : Packet) (now : Nat) : Station :=
  { s with router.tracker := (s.router.tracker.observe p.key now).2 }

def transmit (s : Station) (p : Packet) (now : Nat) : Except MeshError UInt32 × Station :=
  match (s.address p).encode with
  | .error e => (.error (.packet e), s)
  | .ok frame =>
    match (s.record p now).send frame with
    | (.error e, s) => (.error e, s)
    | (.ok (), s) => (.ok p.packetId, s)

/-- The payload as it goes on the air: handshakes see to their own. -/
def sealPayload (p : Packet) (payload : Bytes) (keys : KeyRing) (draws : Draws) :
    Except MeshError Bytes × Draws :=
  if p.topic.isInclusion then (.ok payload, draws)
  else keys.sealText p.associatedData payload draws

/-- A message of this node, sealed and not too long for a frame. -/
def compose (s : Station) (destination : NodeId) (topic : Topic) (payload : Bytes)
    (keys : KeyRing) : Except MeshError Packet × Station :=
  match Packet.create s.router.nodeId destination topic [] s.draws with
  | (.error e, draws) => (.error (.packet e), { s with draws := draws })
  | (.ok p, draws) =>
    match sealPayload p payload keys draws with
    | (.error e, draws) => (.error e, { s with draws := draws })
    | (.ok sealedText, draws) =>
      let s := { s with draws := draws }
      if Packet.maxPayload < sealedText.length then
        (.error (.packet (.payloadTooLarge sealedText.length)), s)
      else (.ok { p with payload := sealedText }, s)

def originate (s : Station) (destination : NodeId) (topic : Topic) (payload : Bytes) (now : Nat)
    (keys : KeyRing) : Except MeshError UInt32 × Station :=
  match s.compose destination topic payload keys with
  | (.error e, s) => (.error e, s)
  | (.ok p, s) => s.transmit p now

/-- Sends a copy of another node's packet, one hop on. -/
def relay (s : Station) (p : Packet) (nextHop : NodeId) : Except MeshError RouteOutcome × Station :=
  match p.spendHop s.router.maxHops with
  | .error _ =>
    (.ok (.dropped .maxHops),
      { s with router.stats.hopLimitExceeded := s.router.stats.hopLimitExceeded + 1 })
  | .ok p =>
    match { p with lastHop := s.router.nodeId, nextHop := nextHop : Packet }.encode with
    | .error e => (.error (.packet e), s)
    | .ok frame =>
      match s.send frame with
      | (.error e, s) => (.error e, s)
      | (.ok (), s) =>
        if nextHop.isBroadcast then
          (.ok .rebroadcast,
            { s with router.stats.rebroadcast := s.router.stats.rebroadcast + 1 })
        else
          (.ok (.forwarded nextHop),
            { s with router.stats.forwarded := s.router.stats.forwarded + 1 })

def deliver (s : Station) (p : Packet) (keys : KeyRing) : Except DropReason Unit × Station :=
  let (result, router) := s.router.deliver p keys
  (result, { s with router := router })

/-- An acknowledgement names the message that it answers. -/
def replyBody (p : Packet) : Topic → Bytes
  | .ack => Bytes.bigEndian 4 p.packetId.toNat
  | _ => []

/-- Delivers a packet for this node alone, and answers it if its topic asks. -/
def deliverUnicast (s : Station) (p : Packet) (now : Nat) (keys : KeyRing) :
    Except MeshError RouteOutcome × Station :=
  match s.deliver p keys with
  | (.error reason, s) => (.ok (.dropped reason), s)
  | (.ok (), s) =>
    match p.topic.reply? with
    | none => (.ok .deliveredLocally, s)
    | some reply =>
      match s.originate p.source reply (replyBody p reply) now keys with
      | (.error e, s) => (.error e, s)
      | (.ok _, s) => (.ok .deliveredLocally, s)

def spread (s : Station) (p : Packet) (keys : KeyRing) : Except MeshError RouteOutcome × Station :=
  let (result, s) := s.deliver p keys
  if s.router.relayEnabled then s.relay p .broadcast
  else
    match result with
    | .ok () => (.ok .deliveredLocally, s)
    | .error _ => (.ok (.dropped .relayDisabled), s)

def forward (s : Station) (p : Packet) : Except MeshError RouteOutcome × Station :=
  if p.nextHop ≠ s.router.nodeId ∧ !p.nextHop.isBroadcast then (.ok (.dropped .notNextHop), s)
  else if !s.router.relayEnabled then (.ok (.dropped .relayDisabled), s)
  else s.relay p (s.router.nextHop p.destination)

def dispatch (s : Station) (p : Packet) (now : Nat) (keys : KeyRing) :
    Except MeshError RouteOutcome × Station :=
  if p.topic.isInclusion then (.ok (.dropped .handshakeTopic), s)
  else if p.destination = s.router.nodeId then s.deliverUnicast p now keys
  else if p.isBroadcast then s.spread p keys
  else s.forward p

def route (s : Station) (frame : Bytes) (rssi : Int16) (now : Nat) (keys : KeyRing) :
    Except MeshError RouteOutcome × Station :=
  match s.router.screen frame rssi now with
  | (.error reason, router) => (.ok (.dropped reason), { s with router := router })
  | (.ok p, router) => { s with router := router : Station }.dispatch p now keys

end Station
end Meshwork
