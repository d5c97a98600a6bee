import Meshwork.Checksum
import Meshwork.Packet

/-! # Frames

A frame is a header of 23 bytes, a payload of up to 229 bytes and a checksum
over all of it. Numbers are written most significant byte first. The checksum
is read before the length byte, so a damaged length reads as corruption. -/

namespace Meshwork.Packet
set_option autoImplicit false

/-- The frame of a packet up to its checksum. -/
def body (p : Packet) : Bytes :=
  p.source.toBytes ++ p.destination.toBytes ++ [p.topic.toByte]
    ++ Bytes.bigEndian 4 p.packetId.toNat ++ [p.hopCount]
    ++ p.lastHop.toBytes ++ p.nextHop.toBytes ++ [UInt8.ofNat p.payload.length] ++ p.payload

/-- A body with its checksum behind it. -/
def sealBody (body : Bytes) : Bytes := body ++ Bytes.bigEndian 4 (Checksum.crc32 body).toNat

def encode (p : Packet) : Except PacketError Bytes :=
  match check p.topic p.payload with
  | .error e => .error e
  | .ok () => .ok (sealBody p.body)

/-- Reads the fields at their places. -/
def ofBody (body : Bytes) : Packet where
  source := .ofBytes (Bytes.slice 0 4 body)
  destination := .ofBytes (Bytes.slice 4 4 body)
  topic := .ofByte (body.getD 8 0)
  packetId := UInt32.ofNat (Bytes.ofBigEndian (Bytes.slice 9 4 body))
  hopCount := body.getD 13 0
  lastHop := .ofBytes (Bytes.slice 14 4 body)
  nextHop := .ofBytes (Bytes.slice 18 4 body)
  payload := body.drop headerLength

/-- The payload length that a body announces. -/
def announcedLength (body : Bytes) : Nat := (body.getD 22 0).toNat

def decode (frame : Bytes) : Except PacketError Packet :=
  if frame.length < minFrameLength ∨ maxFrameLength < frame.length then
    .error (.invalidLength minFrameLength frame.length)
  else
    let body := frame.take (frame.length - checksumLength)
    let expected := UInt32.ofNat (Bytes.ofBigEndian (frame.drop (frame.length - checksumLength)))
    let actual := Checksum.crc32 body
    if expected ≠ actual then .error (.corrupted expected actual)
    else if body.length ≠ headerLength + announcedLength body then
      .error (.invalidLength (minFrameLength + announcedLength body) frame.length)
    else .ok (ofBody body)

end Meshwork.Packet
