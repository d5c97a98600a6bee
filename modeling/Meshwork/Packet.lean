import Meshwork.Error
import Meshwork.Node

/-! # Packets

What a frame carries. The source, destination, topic and identifier never
change on the way and are what a payload is sealed with; the hop fields are
changed by every relay. -/

namespace Meshwork
set_option autoImplicit false

structure Packet where
  source : NodeId
  destination : NodeId
  topic : Topic
  packetId : UInt32
  /-- Hops travelled so far, zero when the originator sends it. -/
  hopCount : UInt8
  /-- The node that sent this copy. -/
  lastHop : NodeId
  /-- The relay that is to act on this copy, or broadcast. -/
  nextHop : NodeId
  payload : Bytes
deriving DecidableEq, Repr, Inhabited

namespace Packet

def maxFrameLength : Nat := 256
def headerLength : Nat := 23
def checksumLength : Nat := 4
def minFrameLength : Nat := headerLength + checksumLength
def maxPayload : Nat := maxFrameLength - minFrameLength

/-- Whether a topic and a payload fit on the air. -/
def check (topic : Topic) (payload : Bytes) : Except PacketError Unit :=
  if !topic.isCanonical then .error (.invalidTopic topic)
  else if maxPayload < payload.length then .error (.payloadTooLarge payload.length)
  else .ok ()

def fresh (source destination : NodeId) (topic : Topic) (payload : Bytes) (packetId : UInt32) :
    Packet where
  source := source
  destination := destination
  topic := topic
  packetId := packetId
  hopCount := 0
  lastHop := source
  nextHop := .broadcast
  payload := payload

/-- The identifier that a draw of four bytes spells, least significant first. -/
def idOfDraw (bs : Bytes) : UInt32 := UInt32.ofNat (Bytes.ofLittleEndian bs)

/-- A packet with a drawn identifier; a refused one draws nothing. -/
def create (source destination : NodeId) (topic : Topic) (payload : Bytes) (draws : Draws) :
    Except PacketError Packet × Draws :=
  match check topic payload with
  | .error e => (.error e, draws)
  | .ok () =>
    let (bs, draws) := draws.take 4
    (.ok (fresh source destination topic payload (idOfDraw bs)), draws)

def isBroadcast (p : Packet) : Bool := p.destination.isBroadcast

/-- What tells one message from another, whoever relays it. -/
def key (p : Packet) : NodeId × UInt32 := (p.source, p.packetId)

/-- The fields that stay fixed from end to end, as sealed payloads bind them. -/
def associatedData (p : Packet) : Bytes :=
  p.source.toBytes ++ p.destination.toBytes ++ [p.topic.toByte]
    ++ Bytes.bigEndian 4 p.packetId.toNat

def remainingHops (p : Packet) (limit : UInt8) : UInt8 :=
  if p.hopCount ≤ limit then limit - p.hopCount else 0

def isAtMaxHops (p : Packet) (limit : UInt8) : Bool := limit ≤ p.hopCount

def spendHop (p : Packet) (limit : UInt8) : Except PacketError Packet :=
  if p.isAtMaxHops limit then .error (.maxHops p.hopCount limit)
  else .ok { p with hopCount := p.hopCount + 1 }

end Packet
end Meshwork
