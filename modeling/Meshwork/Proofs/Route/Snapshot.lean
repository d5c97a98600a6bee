import Meshwork.Proofs.Config.Text
import Meshwork.Proofs.Route.Table
import Meshwork.Route.Snapshot

/-!
# Snapshots of tables

What a snapshot says is read again, but for the times. A table that was empty takes
all of it up, in the same order, if it may hold as many routes as the one it was
taken of.
-/

namespace Meshwork
set_option autoImplicit false

namespace Route

/-- The same route, as if it had been heard at this time. -/
def heardAt (now : Nat) (r : Route) : Route := { r with lastSeen := now }

theorem rssi?_integer (rssi : Int16) : rssi? (.integer rssi.toInt) = some rssi := by
  have hbound : -32768 ≤ rssi.toInt ∧ rssi.toInt < 32768 := ⟨rssi.le_toInt, rssi.toInt_lt⟩
  unfold rssi? Json.int?
  simp only
  rw [if_pos hbound, Int16.ofInt_toInt]

theorem fieldNames_nodup : fieldNames.Nodup := by decide +kernel

theorem fieldNames_text : ∀ name ∈ fieldNames, name.text?.isSome = true := by decide +kernel

/-- A route is read as it was written, but for the time it was heard at. -/
theorem ofJson?_toJson (r : Route) : ofJson? r.toJson = some (r.heardAt 0) := by
  have hrecord : r.toJson.record? fieldNames = some
      [some r.destination.toJson, some r.nextHop.toJson, some (.integer r.hopCount.toNat),
       some (.integer r.rssi.toInt)] :=
    Json.record?_zip fieldNames_nodup fieldNames_text rfl
  unfold ofJson?
  rw [hrecord]
  simp only
  rw [NodeId.ofJson?_toJson, NodeId.ofJson?_toJson, Json.byte?_integer, rssi?_integer]
  rfl

theorem isWhole_toJson (r : Route) : r.toJson.IsWhole :=
  ⟨Json.isWhole_ofBytes _, Json.isWhole_ofBytes _, trivial, trivial, trivial⟩

end Route

namespace RouteTable

variable {t : RouteTable} {r : Route} {routes : List Route}

theorem parseSnapshot?_snapshot (t : RouteTable) :
    parseSnapshot? t.snapshot = some (t.routes.map (Route.heardAt 0)) := by
  have hwhole : (Json.array (t.routes.map Route.toJson)).IsWhole :=
    Json.allWhole_map fun r _ => r.isWhole_toJson
  have hread : (t.routes.map Route.toJson).mapM Route.ofJson? =
      some (t.routes.map (Route.heardAt 0)) := by
    rw [List.mapM_map]
    exact Json.mapM_eq_some fun r _ => r.ofJson?_toJson
  unfold parseSnapshot? snapshot
  rw [Json.parse_render hwhole]
  exact hread

/-! ## Taking routes up -/

theorem insertRoute_last (h : ∀ e ∈ routes, e.destination.value.toNat < r.destination.value.toNat) :
    insertRoute r routes = routes ++ [r] := by
  induction routes with
  | nil => rfl
  | cons s rest ih =>
    have hgt : r.destination.compare s.destination = .gt :=
      Nat.compare_eq_gt.mpr (h s List.mem_cons_self)
    unfold insertRoute
    rw [hgt]
    simp only
    rw [ih fun e he => h e (List.mem_cons_of_mem s he)]
    rfl

/-- Routes in order are put behind those that are there, if there is room. -/
theorem routes_restore (hroom : t.routes.length + routes.length ≤ t.maxRoutes)
    (hsorted : (t.routes ++ routes).Pairwise
      fun a b => a.destination.value.toNat < b.destination.value.toNat) (now : Nat) :
    (t.restore routes now).routes = t.routes ++ routes.map (Route.heardAt now) := by
  unfold restore
  induction routes generalizing t with
  | nil => exact (List.append_nil t.routes).symm
  | cons r routes ih =>
    obtain ⟨hdone, hlater, hbefore⟩ := List.pairwise_append.mp hsorted
    have hlast : ∀ e ∈ t.routes, e.destination.value.toNat < r.destination.value.toNat :=
      fun e he => hbefore e he r List.mem_cons_self
    have hnone : t.lookup r.destination = none := by
      rw [lookup_eq_none_iff]
      intro e he hsame
      have hlt := hlast e he
      rw [hsame] at hlt
      exact Nat.lt_irrefl _ hlt
    rw [List.length_cons] at hroom
    have hput : (t.update r.destination r.nextHop r.hopCount r.rssi now).2 =
        { t with routes := t.routes ++ [r.heardAt now] } := by
      have hinsert : insertRoute (r.heardAt now) t.routes = t.routes ++ [r.heardAt now] :=
        insertRoute_last hlast
      rw [update_new hnone (by unfold size; omega)]
      exact congrArg (fun routes => { t with routes := routes }) hinsert
    rw [List.foldl_cons, hput, ih]
    · rw [List.map_cons, List.append_assoc]
      rfl
    · change (t.routes ++ [r.heardAt now]).length + routes.length ≤ t.maxRoutes
      rw [List.length_append, List.length_singleton]
      omega
    · rw [List.append_assoc]
      refine List.pairwise_append.mpr
        ⟨hdone, List.pairwise_cons.mpr (List.pairwise_cons.mp hlater), fun e he s hs => ?_⟩
      rcases List.mem_cons.mp hs with rfl | hs
      · exact hlast e he
      · exact hbefore e he s (List.mem_cons_of_mem r hs)

/-- A new table with as much room takes up all that a snapshot says. -/
theorem routes_restore_snapshot {fresh : RouteTable} (h : t.IsOrderly)
    (hempty : fresh.routes = []) (hroom : fresh.maxRoutes = t.maxRoutes) (now : Nat) :
    ∃ routes, parseSnapshot? t.snapshot = some routes ∧
      (fresh.restore routes now).routes = t.routes.map (Route.heardAt now) := by
  refine ⟨_, t.parseSnapshot?_snapshot, ?_⟩
  rw [routes_restore, hempty, List.nil_append, List.map_map]
  · rfl
  · rw [hempty, List.length_nil, Nat.zero_add, List.length_map, hroom]
    exact h.size
  · rw [hempty, List.nil_append, List.pairwise_map]
    exact h.sorted

end RouteTable
end Meshwork
