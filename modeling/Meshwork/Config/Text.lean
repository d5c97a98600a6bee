import Meshwork.Config
import Meshwork.Json.Parser
import Meshwork.Json.Printer

/-! # Configurations as text

A configuration is written as an object of its twelve fields. When one is read,
missing fields keep their initial values, in an object by name and in an array
from the end. -/

namespace Meshwork
set_option autoImplicit false

def NodeId.toJson (id : NodeId) : Json := .ofBytes id.toBytes

def NodeId.ofJson? (j : Json) : Option NodeId := (j.block? 4).map fun b => .ofBytes b.val

namespace Role

def toJson (r : Role) : Json := .string (Bytes.ofText r.label)

def ofName? (name : Bytes) : Option Role :=
  [hub, standard].find? fun r => Bytes.ofText r.label == name

/-- A role is its name, or an object with its name and nothing under it. -/
def ofJson? : Json → Option Role
  | .string name => ofName? name
  | .object [(name, .null)] => ofName? name
  | _ => none

end Role

namespace Config

def fieldNames : List Bytes :=
  ["node_id", "role", "max_hops", "dedup_window_ms", "dedup_capacity", "route_timeout_ms",
   "max_routes", "inclusion_timeout_ms", "max_inclusion_sessions", "relay_enabled",
   "receive_timeout_ms", "inclusion_secret"].map Bytes.ofText

def word (w : UInt64) : Json := .integer w.toNat

def secretJson : Option (Bytes.Block 32) → Json
  | none => .null
  | some secret => .ofBytes secret.val

def secret? : Json → Option (Option (Bytes.Block 32))
  | .null => some none
  | j => (j.block? 32).map some

def fields (c : Config) : List Json :=
  [c.nodeId.toJson, c.role.toJson, .integer c.maxHops.toNat, word c.dedupWindow,
   word c.dedupCapacity, word c.routeTimeout, word c.maxRoutes, word c.inclusionTimeout,
   word c.maxInclusionSessions, .bool c.relayEnabled, word c.receiveTimeout,
   secretJson c.inclusionSecret]

def toJson (c : Config) : Json := .object (fieldNames.zip c.fields)

/-- A field as read by `read`, or its initial value if it is missing. -/
def orInitial {α : Type} (read : Json → Option α) (start : α) : Option Json → Option α
  | none => some start
  | some j => read j

def ofFields? (base : Config) : List (Option Json) → Option Config
  | [nodeId, role, maxHops, dedupWindow, dedupCapacity, routeTimeout, maxRoutes,
      inclusionTimeout, maxInclusionSessions, relayEnabled, receiveTimeout, inclusionSecret] => do
    let nodeId ← orInitial NodeId.ofJson? base.nodeId nodeId
    let role ← orInitial Role.ofJson? base.role role
    let maxHops ← orInitial Json.byte? base.maxHops maxHops
    let dedupWindow ← orInitial Json.word64? base.dedupWindow dedupWindow
    let dedupCapacity ← orInitial Json.word64? base.dedupCapacity dedupCapacity
    let routeTimeout ← orInitial Json.word64? base.routeTimeout routeTimeout
    let maxRoutes ← orInitial Json.word64? base.maxRoutes maxRoutes
    let inclusionTimeout ← orInitial Json.word64? base.inclusionTimeout inclusionTimeout
    let maxInclusionSessions ← orInitial Json.word64? base.maxInclusionSessions maxInclusionSessions
    let relayEnabled ← orInitial Json.bool? base.relayEnabled relayEnabled
    let receiveTimeout ← orInitial Json.word64? base.receiveTimeout receiveTimeout
    let inclusionSecret ← orInitial secret? base.inclusionSecret inclusionSecret
    return { nodeId, role, maxHops, dedupWindow, dedupCapacity, routeTimeout, maxRoutes,
             inclusionTimeout, maxInclusionSessions, relayEnabled, receiveTimeout,
             inclusionSecret }
  | _ => none

def ofJson? (j : Json) : Option Config := (j.record? fieldNames).bind (ofFields? initial)

def parse? (text : Bytes) : Option Config := (Json.parse? text).bind ofJson?

def text (c : Config) : String := c.toJson.text

end Config
end Meshwork
