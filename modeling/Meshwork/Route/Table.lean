import Meshwork.Route

/-! # The routing table

At most one route to a destination, in order of destination. A route is
replaced by a better one, or by any once it has expired; a full table gives up
its worst route for a new destination. -/

namespace Meshwork
set_option autoImplicit false

structure RouteTable where
  timeout : Nat
  maxRoutes : Nat
  routes : List Route := []
deriving DecidableEq

namespace RouteTable

/-- A table holds at least one route. -/
def create (timeout maxRoutes : Nat) : RouteTable :=
  { timeout := timeout, maxRoutes := max maxRoutes 1 }

def initial : RouteTable := create 300000 32

def size (t : RouteTable) : Nat := t.routes.length

def lookup (t : RouteTable) (destination : NodeId) : Option Route :=
  t.routes.find? (·.destination == destination)

/-- Puts a route in its place, over one with the same destination. -/
def insertRoute (r : Route) : List Route → List Route
  | [] => [r]
  | s :: rest =>
    match r.destination.compare s.destination with
    | .lt => r :: s :: rest
    | .eq => r :: rest
    | .gt => s :: insertRoute r rest

def eraseRoute (destination : NodeId) (routes : List Route) : List Route :=
  routes.filter (·.destination != destination)

/-- The route that goes first when the table is full. -/
def worst? (now timeout : Nat) : List Route → Option Route
  | [] => none
  | r :: rest => some (rest.foldl (fun w s => if s.outlasts w now timeout then w else s) r)

def evictWorst (t : RouteTable) (now : Nat) : RouteTable :=
  match worst? now t.timeout t.routes with
  | some r => { t with routes := eraseRoute r.destination t.routes }
  | none => t

def put (t : RouteTable) (r : Route) : RouteTable := { t with routes := insertRoute r t.routes }

/-- Offers a route just heard. -/
def update (t : RouteTable) (destination nextHop : NodeId) (hopCount : UInt8) (rssi : Int16)
    (now : Nat) : RouteChange × RouteTable :=
  let candidate : Route := ⟨destination, nextHop, hopCount, rssi, now⟩
  match t.lookup destination with
  | some existing =>
    if existing.isExpired now t.timeout || candidate.isBetterThan existing then
      (.replaced, t.put candidate)
    else (.kept, t)
  | none =>
    let t := if t.maxRoutes ≤ t.size then t.evictWorst now else t
    (.inserted, t.put candidate)

def remove (t : RouteTable) (destination : NodeId) : Option Route × RouteTable :=
  (t.lookup destination, { t with routes := eraseRoute destination t.routes })

def expire (t : RouteTable) (now : Nat) : Nat × RouteTable :=
  let kept := t.routes.filter (!·.isExpired now t.timeout)
  (t.routes.length - kept.length, { t with routes := kept })

/-- Offers routes kept elsewhere as if all were heard now. -/
def restore (t : RouteTable) (routes : List Route) (now : Nat) : RouteTable :=
  routes.foldl (fun t r => (t.update r.destination r.nextHop r.hopCount r.rssi now).2) t

end RouteTable
end Meshwork
