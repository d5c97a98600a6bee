import Meshwork.Simulation

/-! # Steps of a simulation

A step moves what was sent to everybody who can hear it, lets every device
empty its inbox, and accounts for what was delivered. A step that fails leaves
the accounting to the next one. -/

namespace Meshwork.Simulation
set_option autoImplicit false

def isHeard (m : Medium) (rssi : Float) : Bool := !(rssi < m.sensitivity)

/-- Puts a frame into one inbox, if it is heard there. -/
def hear (sender : Nat) (position : Position) (frame : Bytes) (s : Simulation) (receiver : Nat) :
    Simulation :=
  if receiver = sender then s
  else
    match s.nodes[receiver]? with
    | none => s
    | some node =>
      let rssi := s.setup.medium.rssi position node.position
      if isHeard s.setup.medium rssi then
        let d := { node.device with radio := node.device.radio.inject frame (Medium.reported rssi) }
        { s.setDevice receiver d with stats.framesReceived := s.stats.framesReceived + 1 }
      else
        { s with stats.framesLost := s.stats.framesLost + 1 }.note
          (.frameLost sender receiver rssi)

def transmitFrame (sender : Nat) (position : Position) (s : Simulation) (frame : Bytes) :
    Simulation :=
  let s := { s with stats.framesTransmitted := s.stats.framesTransmitted + 1 }.note
    (.frameTransmitted sender frame.length)
  (List.range s.nodes.length).foldl (hear sender position frame) s

def transmitFrom (s : Simulation) (sender : Nat) : Simulation :=
  match s.nodes[sender]? with
  | none => s
  | some node =>
    let (frames, radio) := node.device.radio.takeOutbox
    frames.foldl (transmitFrame sender node.position)
      (s.setDevice sender { node.device with radio := radio })

def propagate (s : Simulation) : Simulation := (List.range s.nodes.length).foldl transmitFrom s

/-- Polls a device until it finds no frame, at most `fuel` times. -/
def drainInbox : Nat → Device → UInt64 → Draws → Except MeshError Unit × Device × Draws
  | 0, d, _, draws => (.ok (), d, draws)
  | fuel + 1, d, now, draws =>
    match d.poll now draws with
    | (.error e, d, draws) => (.error e, d, draws)
    | (.ok none, d, draws) => (.ok (), d, draws)
    | (.ok (some _), d, draws) => drainInbox fuel d now draws

/-- Polls a device until its inbox is empty: a poll adds nothing to it. -/
def drainDevice (d : Device) (now : UInt64) (draws : Draws) :
    Except MeshError Unit × Device × Draws :=
  drainInbox (d.radio.pending + 1) d now draws

def pollAll (s : Simulation) : List Nat → Except MeshError Unit × Simulation
  | [] => (.ok (), s)
  | index :: rest =>
    match s.onDevice index fun d draws => drainDevice d s.now draws with
    | (some (.error e), s) => (.error e, s)
    | (_, s) => s.pollAll rest

def isAwaited (message : TrackedMessage) (index : Nat) : Bool :=
  !message.delivered && (message.destination.isNone || message.destination == some index)

/-- Accounts for a delivery; the number is the sum of hops so far. -/
def accountDelivery (index : Nat) (acc : Simulation × Float) (d : Delivery) : Simulation × Float :=
  let (s, hops) := acc
  let s := { s with stats := s.stats.modifyNode index fun n =>
    { n with messagesReceived := n.messagesReceived + 1 } }
  match s.tracked.lookup (d.source, d.packetId) with
  | none => (s, hops)
  | some message =>
    if isAwaited message index then
      let s := s.track (d.source, d.packetId) { message with delivered := true }
      let s := { s with stats.messagesDelivered := s.stats.messagesDelivered + 1 }
      (s.note (.messageDelivered index d.source d.packetId d.hopCount),
        hops + d.hopCount.toNat.toFloat)
    else (s, hops)

def accountNode (acc : Simulation × Float) (index : Nat) : Simulation × Float :=
  match acc.1.nodes[index]? with
  | none => acc
  | some node =>
    let handed := node.device.router.handed
    let notified := node.device.notified
    let (s, hops) := (handed.drop node.seen).foldl (accountDelivery index) acc
    let s := (notified.drop node.seenInclusions).foldl
      (fun s event => s.note (.inclusion index event)) s
    let nodes := s.nodes.modify index fun n =>
      { n with seen := handed.length, seenInclusions := notified.length }
    let stats := s.stats.modifyNode index fun n =>
      { n with
        framesRelayed := node.device.router.stats.forwarded + node.device.router.stats.rebroadcast
        routes := node.device.router.table.size }
    ({ s with nodes := nodes, stats := stats }, hops)

def account (s : Simulation) : Simulation :=
  let hops := s.stats.averageHops * s.stats.messagesDelivered.toFloat
  let (s, hops) := (List.range s.nodes.length).foldl accountNode (s, hops)
  if 0 < s.stats.messagesDelivered then
    { s with stats.averageHops := hops / s.stats.messagesDelivered.toFloat }
  else s

def tick (s : Simulation) : Simulation :=
  { s with stepCount := s.stepCount + 1, now := s.now + s.setup.stepTime }

def step (s : Simulation) : Except MeshError Unit × Simulation :=
  let s := s.tick.propagate
  match s.pollAll (List.range s.nodes.length) with
  | (.error e, s) => (.error e, s)
  | (.ok (), s) => (.ok (), s.account)

def run (s : Simulation) : Nat → Except MeshError Unit × Simulation
  | 0 => (.ok (), s)
  | steps + 1 =>
    match s.step with
    | (.error e, s) => (.error e, s)
    | (.ok (), s) => s.run steps

/-- Steps until the condition holds, and tells whether it came to hold. -/
def runUntil (condition : Simulation → Bool) (s : Simulation) :
    Nat → Except MeshError Bool × Simulation
  | 0 => (.ok false, s)
  | steps + 1 =>
    match s.step with
    | (.error e, s) => (.error e, s)
    | (.ok (), s) => if condition s then (.ok true, s) else runUntil condition s steps

end Meshwork.Simulation
