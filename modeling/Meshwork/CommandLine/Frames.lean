import Meshwork.CommandLine.Command
import Meshwork.CommandLine.Transcript
import Meshwork.Config
import Meshwork.Packet.Frame

/-! # Frames on the command line

A frame is taken apart, or made without being sealed. A damaged frame is
reported, not refused. -/

namespace Meshwork.CommandLine
set_option autoImplicit false

def packetLines (p : Packet) : List String :=
  ["Status:       OK (checksum valid)",
   "",
   "Source:       " ++ p.source.text,
   "Destination:  " ++ p.destination.text ++ (if p.isBroadcast then " (broadcast)" else ""),
   "Topic:        " ++ p.topic.label ++ " (" ++ p.topic.category.label ++ ")",
   "Packet ID:    " ++ Hex.word p.packetId,
   "Hop count:    " ++ toString p.hopCount.toNat,
   "Last hop:     " ++ p.lastHop.text,
   "Next hop:     " ++ p.nextHop.text,
   "Payload:      " ++ toString p.payload.length ++ " bytes"]
    ++ if p.payload = [] then [] else ["  " ++ Hex.encode p.payload]

/-- The lines about a frame that carries no packet. -/
def damageLines : PacketError → List String
  | .corrupted expected actual =>
    ["Status:       CORRUPTED",
     "  Checksum in frame: " ++ Hex.word expected,
     "  Computed checksum: " ++ Hex.word actual]
  | e => ["Status:       INVALID (" ++ e.message ++ ")"]

def frameLines (frame : Bytes) : List String :=
  ["=== Mesh Frame ===", "", "Length:       " ++ toString frame.length ++ " bytes"]
    ++ match Packet.decode frame with
      | .ok p => packetLines p
      | .error e => damageLines e

def decodeFrame (text : String) : Transcript :=
  match readHex text with
  | .ok frame => { lines := frameLines frame }
  | .error e => .ofError e

/-- The frame that a plan asks for, with a drawn identifier. -/
def makeFrame (plan : FramePlan) (draws : Draws) : Except CommandError Bytes := do
  let source ← readNode plan.source
  let destination ← readNode plan.destination
  let topic ← readTopic plan.topic
  match (Packet.create source destination topic (Bytes.ofText plan.message) draws).1 with
  | .error e => .error (.mesh (.packet e))
  | .ok p =>
    match { p with hopCount := plan.hopCount : Packet }.encode with
    | .error e => .error (.mesh (.packet e))
    | .ok frame => .ok frame

def encodeFrame (plan : FramePlan) (draws : Draws) : Transcript :=
  match makeFrame plan draws with
  | .ok frame => { lines := [Hex.encode frame] }
  | .error e => .ofError e

def topicLine (value : Nat) : String :=
  let topic := Topic.ofByte (UInt8.ofNat value)
  "  0x" ++ Hex.encode [UInt8.ofNat value] ++ "  " ++ Transcript.column 18 topic.label ++ " "
    ++ topic.category.label

def infoLines : List String :=
  let start := Config.initial
  ["=== RadioMesh Frame Layout ===",
   "",
   "  source(4) dest(4) topic(1) packet_id(4) hop_count(1)",
   "  last_hop(4) next_hop(4) payload_len(1) payload(n) crc32(4)",
   "",
   "  Header:       " ++ toString Packet.headerLength ++ " bytes",
   "  Max frame:    " ++ toString Packet.maxFrameLength ++ " bytes",
   "  Max payload:  " ++ toString Packet.maxPayload ++ " bytes",
   "  Broadcast ID: " ++ NodeId.broadcast.text,
   "",
   "Topics:"]
    ++ (List.range' 1 10).map topicLine
    ++ ["  0x10+ application-defined",
        "",
        "Defaults:",
        "  max_hops              " ++ toString start.maxHops.toNat,
        "  dedup_window_ms       " ++ toString start.dedupWindow.toNat,
        "  dedup_capacity        " ++ toString start.dedupCapacity.toNat,
        "  route_timeout_ms      " ++ toString start.routeTimeout.toNat,
        "  max_routes            " ++ toString start.maxRoutes.toNat,
        "  inclusion_timeout_ms  " ++ toString start.inclusionTimeout.toNat,
        "  max_inclusion_sessions " ++ toString start.maxInclusionSessions.toNat,
        "",
        "Examples:",
        "  radiomesh simulate --nodes 8 --messages 20",
        "  radiomesh simulate --layout random --area 1500 --json",
        "  radiomesh include --devices 3",
        "  radiomesh encode -s 00000001 -d 00000002 -t cmd -m on",
        "  radiomesh decode <hex>"]

end Meshwork.CommandLine
