import Meshwork.Error
import Meshwork.Node
import Meshwork.Text.Record

/-! # Configuration

What a device is set up with. A configuration is usable when its identifier is
not reserved and none of its limits is zero. -/

namespace Meshwork
set_option autoImplicit false

/-- A hub owns the mesh key and takes devices in; a standard device has to be
taken in before it can send. -/
inductive Role where
  | hub | standard
deriving DecidableEq, Repr, Inhabited

def Role.label : Role → String
  | hub => "Hub"
  | standard => "Standard"

/-- Times are in milliseconds. -/
structure Config where
  nodeId : NodeId
  role : Role
  maxHops : UInt8
  dedupWindow : UInt64
  dedupCapacity : UInt64
  routeTimeout : UInt64
  maxRoutes : UInt64
  inclusionTimeout : UInt64
  maxInclusionSessions : UInt64
  relayEnabled : Bool
  receiveTimeout : UInt64
  /-- A secret shared beforehand, mixed into the keys of handshakes. -/
  inclusionSecret : Option (Bytes.Block 32)
deriving DecidableEq

namespace Config

def initial : Config where
  nodeId := .unknown
  role := .standard
  maxHops := 7
  dedupWindow := 60000
  dedupCapacity := 50
  routeTimeout := 300000
  maxRoutes := 32
  inclusionTimeout := 60000
  maxInclusionSessions := 4
  relayEnabled := true
  receiveTimeout := 50
  inclusionSecret := none

instance : Inhabited Config := ⟨initial⟩

def standard (id : NodeId) : Config := { initial with nodeId := id }

def hub (id : NodeId) : Config := { initial with nodeId := id, role := .hub }

def withMaxHops (c : Config) (hops : UInt8) : Config := { c with maxHops := hops }

def withDedup (c : Config) (window capacity : UInt64) : Config :=
  { c with dedupWindow := window, dedupCapacity := capacity }

def withRouteTimeout (c : Config) (timeout : UInt64) : Config := { c with routeTimeout := timeout }

def withInclusionTimeout (c : Config) (timeout : UInt64) : Config :=
  { c with inclusionTimeout := timeout }

def withRelay (c : Config) (enabled : Bool) : Config := { c with relayEnabled := enabled }

def withInclusionSecret (c : Config) (secret : Bytes.Block 32) : Config :=
  { c with inclusionSecret := some secret }

/-- The limits that must not be zero, in the order in which they are checked. -/
def limits (c : Config) : List (String × Nat) :=
  [("max_hops", c.maxHops.toNat),
   ("dedup_window_ms", c.dedupWindow.toNat),
   ("dedup_capacity", c.dedupCapacity.toNat),
   ("route_timeout_ms", c.routeTimeout.toNat),
   ("max_routes", c.maxRoutes.toNat),
   ("inclusion_timeout_ms", c.inclusionTimeout.toNat),
   ("max_inclusion_sessions", c.maxInclusionSessions.toNat)]

/-- Refuses a configuration that no device can run with. -/
def validate (c : Config) : Except MeshError Unit :=
  if c.nodeId.isReserved then
    .error (.invalidState ("node id " ++ c.nodeId.text ++ " is reserved"))
  else
    match c.limits.find? (·.2 == 0) with
    | some (name, _) => .error (.invalidState (name ++ " must be non-zero"))
    | none => .ok ()

def describe (c : Config) : String :=
  Record.describe "MeshConfig"
    [("node_id", c.nodeId.describe), ("role", c.role.label),
     ("max_hops", Record.nat c.maxHops.toNat),
     ("dedup_window_ms", Record.nat c.dedupWindow.toNat),
     ("dedup_capacity", Record.nat c.dedupCapacity.toNat),
     ("route_timeout_ms", Record.nat c.routeTimeout.toNat),
     ("max_routes", Record.nat c.maxRoutes.toNat),
     ("inclusion_timeout_ms", Record.nat c.inclusionTimeout.toNat),
     ("max_inclusion_sessions", Record.nat c.maxInclusionSessions.toNat),
     ("relay_enabled", Record.bool c.relayEnabled),
     ("receive_timeout_ms", Record.nat c.receiveTimeout.toNat),
     ("inclusion_secret",
      Record.option (c.inclusionSecret.map fun secret =>
        Record.list (secret.val.map fun b => Record.nat b.toNat)))]

end Config
end Meshwork
