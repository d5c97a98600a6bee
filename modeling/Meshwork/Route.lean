import Meshwork.Node

/-! # Routes

A route leads to a destination through a neighbour. Between two routes to one
destination the shorter is better, then the one heard louder, then the one
heard later. -/

namespace Meshwork
set_option autoImplicit false

structure Route where
  destination : NodeId
  nextHop : NodeId
  hopCount : UInt8
  /-- The strength of the frame that taught the route. -/
  rssi : Int16
  lastSeen : Nat
deriving DecidableEq, Repr

namespace Route

def isDirect (r : Route) : Bool := r.nextHop == r.destination

def isExpired (r : Route) (now timeout : Nat) : Bool := timeout < now - r.lastSeen

def isBetterThan (a b : Route) : Bool :=
  a.hopCount < b.hopCount ||
    (a.hopCount == b.hopCount &&
      (b.rssi.toInt < a.rssi.toInt || (b.rssi == a.rssi && b.lastSeen < a.lastSeen)))

/-- Whether a route is to be kept rather than another when one has to go:
expired routes go first, and among the others the worse. -/
def outlasts (a b : Route) (now timeout : Nat) : Bool :=
  match a.isExpired now timeout, b.isExpired now timeout with
  | false, true => true
  | true, false => false
  | _, _ => a.isBetterThan b

end Route

inductive RouteChange where
  | inserted | replaced | kept
deriving DecidableEq, Repr

def RouteChange.label : RouteChange → String
  | inserted => "Inserted"
  | replaced => "Replaced"
  | kept => "Kept"

end Meshwork
