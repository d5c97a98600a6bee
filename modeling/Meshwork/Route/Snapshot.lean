import Meshwork.Config.Text
import Meshwork.Route.Table

/-! # Routes as text

A snapshot is an array of routes without the times they were heard at. -/

namespace Meshwork
set_option autoImplicit false

namespace Route

def fieldNames : List Bytes := ["destination", "next_hop", "hop_count", "rssi"].map Bytes.ofText

def toJson (r : Route) : Json :=
  .object (fieldNames.zip
    [r.destination.toJson, r.nextHop.toJson, .integer r.hopCount.toNat, .integer r.rssi.toInt])

def rssi? (j : Json) : Option Int16 :=
  match j.int? with
  | some n => if -32768 ≤ n ∧ n < 32768 then some (Int16.ofInt n) else none
  | none => none

/-- A route needs all its fields. -/
def ofJson? (j : Json) : Option Route :=
  match j.record? fieldNames with
  | some [some destination, some nextHop, some hopCount, some rssi] => do
    let destination ← NodeId.ofJson? destination
    let nextHop ← NodeId.ofJson? nextHop
    let hopCount ← hopCount.byte?
    let rssi ← rssi? rssi
    return { destination, nextHop, hopCount, rssi, lastSeen := 0 }
  | _ => none

def listOfJson? (j : Json) : Option (List Route) := j.array?.bind fun items => items.mapM ofJson?

end Route

namespace RouteTable

def snapshot (t : RouteTable) : Bytes := (Json.array (t.routes.map Route.toJson)).render

def parseSnapshot? (text : Bytes) : Option (List Route) :=
  (Json.parse? text).bind Route.listOfJson?

end RouteTable
end Meshwork
