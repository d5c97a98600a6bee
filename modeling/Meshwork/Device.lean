import Meshwork.Inclusion.Handshake
import Meshwork.Route.Snapshot
import Meshwork.Router.Station

/-! # Devices

A device is a router and the handshakes of inclusion over one radio and one
storage. Membership is stored whenever a handshake ends and whenever the key
changes. An operation that fails keeps what it did before it failed. -/

namespace Meshwork
set_option autoImplicit false

structure Device where
  config : Config
  radio : Radio
  storage : Storage
  router : Router
  inclusion : Inclusion
  keys : KeyRing
  hasInclusionHandler : Bool := false
  /-- The handshake results that the application has been told, in order. -/
  notified : List InclusionEvent := []

namespace Device

/-- A device with a usable configuration. -/
def create (config : Config) (radio : Radio) (storage : Storage) (provider : CryptoProvider) :
    Except MeshError Device :=
  match config.validate with
  | .error e => .error e
  | .ok () =>
    .ok
      { config := config, radio := radio, storage := storage, router := .create config,
        inclusion := .create config, keys := { provider := provider } }

def nodeId (d : Device) : NodeId := d.config.nodeId

def state (d : Device) : Membership := d.inclusion.state

/-- Lets the router work at the radio of this device. -/
def atStation {α : Type} (d : Device) (draws : Draws)
    (work : Station → Except MeshError α × Station) : Except MeshError α × Device × Draws :=
  let (result, s) := work { router := d.router, radio := d.radio, draws := draws }
  (result, { d with router := s.router, radio := s.radio }, s.draws)

/-- Lets a handshake go on with the key of this device. -/
def asParty {ε α : Type} (d : Device) (draws : Draws)
    (work : Party → Except ε α × Party) : Except ε α × Device × Draws :=
  let (result, s) := work { inclusion := d.inclusion, keys := d.keys, draws := draws }
  (result, { d with inclusion := s.inclusion, keys := s.keys }, s.draws)

def persistMembership (d : Device) : Except MeshError Unit × Device :=
  match d.keys.flush d.storage with
  | (.error e, storage) => (.error e, { d with storage := storage })
  | (.ok (), storage) =>
    match storage.write Storage.inclusionState [d.inclusion.state.toByte] with
    | (.error e, storage) => (.error (.storage e), { d with storage := storage })
    | (.ok (), storage) => (.ok (), { d with storage := storage })

/-- Tells the application of handshakes that ended, and stores what they left. -/
def emitEvents (d : Device) : Except MeshError Unit × Device :=
  match d.inclusion.drain with
  | ([], _) => (.ok (), d)
  | (events, inclusion) =>
    { d with
      inclusion := inclusion
      notified := if d.hasInclusionHandler then d.notified ++ events else d.notified
      : Device }.persistMembership

/-- The membership that a device comes up with: it is that of the key. -/
def restoreMembership (d : Device) (hasKey : Bool) : Except MeshError Unit × Device :=
  if d.config.role = .standard then
    match d.storage.readOptional Storage.inclusionState with
    | .error e => (.error (.storage e), d)
    | .ok _ =>
      let state := if hasKey then Membership.included else .notIncluded
      (.ok (), { d with inclusion := d.inclusion.restore state })
  else (.ok (), d)

/-- Takes up stored routes; an unreadable snapshot is ignored. -/
def restoreRoutes (d : Device) (now : UInt64) : Except MeshError Unit × Device :=
  match d.storage.readOptional Storage.routes with
  | .error e => (.error (.storage e), d)
  | .ok none => (.ok (), d)
  | .ok (some text) =>
    match RouteTable.parseSnapshot? text with
    | none => (.ok (), d)
    | some routes => (.ok (), { d with router.table := d.router.table.restore routes now.toNat })

def init (d : Device) (now : UInt64) : Except MeshError Unit × Device :=
  match d.keys.load d.storage with
  | .error e => (.error e, d)
  | .ok (hasKey, keys) =>
    match { d with keys := keys : Device }.restoreMembership hasKey with
    | (.error e, d) => (.error e, d)
    | (.ok (), d) => d.restoreRoutes now

def shutdown (d : Device) : Except MeshError Unit × Device :=
  match d.persistMembership with
  | (.error e, d) => (.error e, d)
  | (.ok (), d) =>
    match d.storage.write Storage.routes d.router.table.snapshot with
    | (.error e, storage) => (.error (.storage e), { d with storage := storage })
    | (.ok (), storage) => (.ok (), { d with storage := storage })

def sendReply (d : Device) (reply : Option Packet) (now : UInt64) (draws : Draws) :
    Except MeshError RouteOutcome × Device × Draws :=
  match reply with
  | none => (.ok .deliveredLocally, d, draws)
  | some p =>
    match d.atStation draws (·.transmit p now.toNat) with
    | (.error e, d, draws) => (.error e, d, draws)
    | (.ok _, d, draws) => (.ok .deliveredLocally, d, draws)

def handleInclusion (d : Device) (p : Packet) (now : UInt64) (draws : Draws) :
    Except MeshError RouteOutcome × Device × Draws :=
  if p.destination ≠ d.nodeId ∧ !p.isBroadcast then (.ok (.dropped .handshakeTopic), d, draws)
  else
    match d.asParty draws (·.handle p now) with
    | (.error _, d, draws) => (.ok (.dropped .inclusionRejected), d, draws)
    | (.ok reply, d, draws) => d.sendReply reply now draws

def handlePacket (d : Device) (p : Packet) (now : UInt64) (draws : Draws) :
    Except MeshError RouteOutcome × Device × Draws :=
  if p.topic.isInclusion then d.handleInclusion p now draws
  else d.atStation draws (·.dispatch p now.toNat d.keys)

/-- Handles a frame as if it had just been received. Handshakes that it ends
are told of even if an answer could not be sent. -/
def processFrame (d : Device) (frame : Bytes) (now : UInt64) (draws : Draws) :
    Except MeshError RouteOutcome × Device × Draws :=
  match d.router.screen frame d.radio.rssi now.toNat with
  | (.error reason, router) => (.ok (.dropped reason), { d with router := router }, draws)
  | (.ok p, router) =>
    let (outcome, d, draws) := { d with router := router : Device }.handlePacket p now draws
    match d.emitEvents with
    | (.error e, d) => (.error e, d, draws)
    | (.ok (), d) => (outcome, d, draws)

def expire (d : Device) (now : UInt64) : Device :=
  { d with router := d.router.sweep now.toNat, inclusion := d.inclusion.checkTimeouts now }

def receiveFrame (d : Device) (now : UInt64) (draws : Draws) :
    Except MeshError (Option RouteOutcome) × Device × Draws :=
  match d.radio.receive with
  | .error e => (.error (.radio e), d, draws)
  | .ok (none, radio) => (.ok none, { d with radio := radio }, draws)
  | .ok (some frame, radio) =>
    match { d with radio := radio : Device }.processFrame frame now draws with
    | (.error e, d, draws) => (.error e, d, draws)
    | (.ok outcome, d, draws) => (.ok (some outcome), d, draws)

/-- One turn of the loop: forgets what is past its time and handles at most one
frame. -/
def poll (d : Device) (now : UInt64) (draws : Draws) :
    Except MeshError (Option RouteOutcome) × Device × Draws :=
  match (d.expire now).emitEvents with
  | (.error e, d) => (.error e, d, draws)
  | (.ok (), d) => d.receiveFrame now draws

/-- Seals a message and sends it; only a member may. -/
def send (d : Device) (destination : NodeId) (topic : Topic) (payload : Bytes) (now : UInt64)
    (draws : Draws) : Except MeshError UInt32 × Device × Draws :=
  if !topic.isCanonical then (.error (.packet (.invalidTopic topic)), d, draws)
  else if topic.isInclusion then
    (.error (.invalidState (topic.label ++ " is sent by the inclusion handshake")), d, draws)
  else if d.state ≠ .included then (.error .notIncluded, d, draws)
  else d.atStation draws (·.originate destination topic payload now.toNat d.keys)

def broadcast (d : Device) (topic : Topic) (payload : Bytes) (now : UInt64) (draws : Draws) :
    Except MeshError UInt32 × Device × Draws :=
  d.send .broadcast topic payload now draws

def requestInclusion (d : Device) (now : UInt64) (draws : Draws) :
    Except MeshError Unit × Device × Draws :=
  match d.asParty draws (·.request now) with
  | (.error e, d, draws) => (.error e, d, draws)
  | (.ok p, d, draws) =>
    match d.atStation draws (·.transmit p now.toNat) with
    | (.error e, d, draws) => (.error e, d, draws)
    | (.ok _, d, draws) => (.ok (), d, draws)

def enableInclusion (d : Device) (draws : Draws) : Except MeshError Unit × Device × Draws :=
  match d.asParty draws (·.enable) with
  | (.error e, d, draws) => (.error e, d, draws)
  | (.ok (), d, draws) =>
    let (result, d) := d.persistMembership
    (result, d, draws)

def disableInclusion (d : Device) : Device := { d with inclusion := d.inclusion.disable }

/-- Installs a mesh key that was obtained by other means. -/
def provision (d : Device) (key : MeshKey) : Except MeshError Unit × Device :=
  match d.keys.install key with
  | .error e => (.error (.key e), d)
  | .ok keys =>
    { d with keys := keys, inclusion := d.inclusion.restore .included : Device }.persistMembership

/-- Forgets the key and the membership. -/
def forget (d : Device) : Device :=
  { d with keys := d.keys.clear, inclusion := d.inclusion.reset }

/-- Says goodbye, whether or not anybody hears it, and leaves. -/
def leave (d : Device) (now : UInt64) (draws : Draws) : Except MeshError Unit × Device × Draws :=
  if d.config.role = .hub then
    (.error (.invalidState "a hub cannot leave its own mesh"), d, draws)
  else if d.state ≠ .included then (.error .notIncluded, d, draws)
  else
    let (_, d, draws) := d.broadcast .bye [] now draws
    let (result, d) := d.forget.persistMembership
    (result, d, draws)

def listen (d : Device) : Except MeshError Device :=
  match d.router.listen with
  | .error e => .error e
  | .ok router => .ok { d with router := router }

def listenInclusion (d : Device) : Except MeshError Device :=
  if d.hasInclusionHandler then .error (.invalidState "inclusion handler already registered")
  else .ok { d with hasInclusionHandler := true }

def describe (d : Device) : String :=
  Record.describePart "MeshDevice"
    [("node_id", d.nodeId.describe), ("role", d.config.role.label), ("state", d.state.label),
     ("router", d.router.describe), ("keys", d.keys.describe)]

end Device
end Meshwork
