import Meshwork.Proofs.Route.Table
import Meshwork.Proofs.Router.Screen

/-!
# What a router learns

All routes come from headers: the way to the source of a packet, and the relay that
sent this copy of it as a neighbour. What a router is set up with never changes.
-/

namespace Meshwork
set_option autoImplicit false

/-- The routes that a packet with this header teaches a node. -/
inductive Teaches (own : NodeId) (maxHops : UInt8) (p : Packet) (e : Route) : Prop where
  | source (hnear : p.hopCount.toNat < maxHops.toNat - 1) (hdestination : e.destination = p.source)
      (hnext : e.nextHop = p.lastHop) (hcount : e.hopCount = p.hopCount + 1)
  | relay (hsource : p.lastHop ≠ p.source) (hown : p.lastHop ≠ own)
      (hnamed : p.lastHop.isReserved = false) (hdestination : e.destination = p.lastHop)
      (hnext : e.nextHop = p.lastHop) (hcount : e.hopCount = 1)

/-- Below a limit that is a byte there is room for one more hop. -/
theorem toNat_add_one_of_lt {hops limit : UInt8} (h : hops.toNat < limit.toNat) :
    (hops + 1).toNat = hops.toNat + 1 := by
  have hlimit := limit.toNat_lt
  rw [UInt8.toNat_add, UInt8.toNat_one]
  omega

namespace Router

/-- The router is set up as before, its tracker has only been asked and swept, and its
table is in order if it was. -/
structure Alike (r r' : Router) : Prop where
  nodeId : r'.nodeId = r.nodeId
  maxHops : r'.maxHops = r.maxHops
  relayEnabled : r'.relayEnabled = r.relayEnabled
  hasHandler : r'.hasHandler = r.hasHandler
  timeout : r'.table.timeout = r.table.timeout
  maxRoutes : r'.table.maxRoutes = r.table.maxRoutes
  order : r.table.IsOrderly → r'.table.IsOrderly
  tracker : ∃ events, r'.tracker = r.tracker.run events

/-- Beyond that, the router knows no route that it did not know. -/
structure Forgets (r r' : Router) : Prop extends Alike r r' where
  routes : r'.table.routes ⊆ r.table.routes

/-- Beyond what it knew, the router knows routes that it has heard of at this time only. -/
structure Stamps (now : Nat) (r r' : Router) : Prop extends Alike r r' where
  routes : ∀ e ∈ r'.table.routes, e.lastSeen = now ∨ e ∈ r.table.routes

variable {r r' r'' : Router} {p : Packet} {e : Route} {frame : Bytes} {rssi : Int16} {now : Nat}

theorem Alike.refl (r : Router) : r.Alike r :=
  ⟨rfl, rfl, rfl, rfl, rfl, rfl, id, [], rfl⟩

theorem Alike.trans (h : r.Alike r') (h' : r'.Alike r'') : r.Alike r'' := by
  obtain ⟨events, htracker⟩ := h.tracker
  obtain ⟨more, htracker'⟩ := h'.tracker
  refine ⟨h'.nodeId.trans h.nodeId, h'.maxHops.trans h.maxHops,
    h'.relayEnabled.trans h.relayEnabled, h'.hasHandler.trans h.hasHandler,
    h'.timeout.trans h.timeout, h'.maxRoutes.trans h.maxRoutes, h'.order ∘ h.order,
    events ++ more, ?_⟩
  rw [htracker', htracker, DuplicateTracker.run_append]

theorem Forgets.refl (r : Router) : r.Forgets r := ⟨Alike.refl r, fun _ h => h⟩

theorem Forgets.trans (h : r.Forgets r') (h' : r'.Forgets r'') : r.Forgets r'' :=
  ⟨h.toAlike.trans h'.toAlike, fun _ he => h.routes (h'.routes he)⟩

theorem Forgets.stamps (h : r.Forgets r') (now : Nat) : r.Stamps now r' :=
  ⟨h.toAlike, fun _ he => Or.inr (h.routes he)⟩

theorem Stamps.refl (r : Router) (now : Nat) : r.Stamps now r := (Forgets.refl r).stamps now

theorem Stamps.trans (h : r.Stamps now r') (h' : r'.Stamps now r'') : r.Stamps now r'' :=
  ⟨h.toAlike.trans h'.toAlike, fun e he => (h'.routes e he).elim Or.inl (h.routes e)⟩

theorem forgets_sweep (r : Router) (now : Nat) : r.Forgets (r.sweep now) :=
  ⟨⟨rfl, rfl, rfl, rfl, rfl, rfl, fun h => h.expire now, [.evict now], rfl⟩,
    fun _ => RouteTable.mem_of_mem_expire⟩

/-! ## Learning -/

/-- An offer has to do with the table and with the count of what was learned. -/
theorem offer_eq (r : Router) (destination nextHop : NodeId) (hopCount : UInt8) (rssi : Int16)
    (now : Nat) :
    ∃ learned, r.offer destination nextHop hopCount rssi now =
      { r with
        table := (r.table.update destination nextHop hopCount rssi now).2
        stats.learned := learned } := by
  unfold offer
  rcases r.table.update_cases destination nextHop hopCount rssi now with h |
    ⟨change, _, hchange, _, h⟩
  · rw [h]
    exact ⟨r.stats.learned, rfl⟩
  · rw [h]
    cases change with
    | kept => exact absurd rfl hchange
    | _ => exact ⟨_, rfl⟩

theorem offer_table (r : Router) (destination nextHop : NodeId) (hopCount : UInt8) (rssi : Int16)
    (now : Nat) :
    (r.offer destination nextHop hopCount rssi now).table =
      (r.table.update destination nextHop hopCount rssi now).2 := by
  obtain ⟨stats, h⟩ := r.offer_eq destination nextHop hopCount rssi now
  rw [h]

theorem stamps_offer (r : Router) (destination nextHop : NodeId) (hopCount : UInt8) (rssi : Int16)
    (now : Nat) : r.Stamps now (r.offer destination nextHop hopCount rssi now) := by
  obtain ⟨stats, h⟩ := r.offer_eq destination nextHop hopCount rssi now
  have hset := r.table.setup_update destination nextHop hopCount rssi now
  rw [h]
  refine ⟨⟨rfl, rfl, rfl, rfl, hset.1, hset.2, fun h => h.update _ _ _ _ _, [], rfl⟩, ?_⟩
  intro e he
  rcases RouteTable.mem_of_mem_update he with rfl | hbefore
  · exact Or.inl rfl
  · exact Or.inr hbefore

theorem stamps_learnSource (r : Router) (p : Packet) (rssi : Int16) (now : Nat) :
    r.Stamps now (r.learnSource p rssi now) := by
  unfold learnSource
  split
  · exact stamps_offer r _ _ _ rssi now
  · exact Stamps.refl r now

theorem stamps_learn (r : Router) (p : Packet) (rssi : Int16) (now : Nat) :
    r.Stamps now (r.learn p rssi now) := by
  have hsource := r.stamps_learnSource p rssi now
  unfold learn learnRelay
  split
  · exact hsource.trans (stamps_offer _ _ _ _ rssi now)
  · exact hsource

theorem teaches_of_mem_learnSource (h : e ∈ (r.learnSource p rssi now).table.routes) :
    Teaches r.nodeId r.maxHops p e ∨ e ∈ r.table.routes := by
  unfold learnSource at h
  split at h
  · rename_i hnear
    rw [offer_table] at h
    rcases RouteTable.mem_of_mem_update h with rfl | h
    · exact Or.inl (.source hnear rfl rfl rfl)
    · exact Or.inr h
  · exact Or.inr h

theorem teaches_of_mem_learn (h : e ∈ (r.learn p rssi now).table.routes) :
    Teaches r.nodeId r.maxHops p e ∨ e ∈ r.table.routes := by
  unfold learn learnRelay at h
  split at h
  · rename_i hrelay
    rw [(r.stamps_learnSource p rssi now).nodeId] at hrelay
    rw [offer_table] at h
    rcases RouteTable.mem_of_mem_update h with rfl | h
    · exact Or.inl (.relay hrelay.1 hrelay.2.1 (by simpa using hrelay.2.2) rfl rfl rfl)
    · exact teaches_of_mem_learnSource h
  · exact teaches_of_mem_learnSource h

/-! ## The way to one node -/

section Leads

variable {ids : List NodeId} {destination nextHop : NodeId} {since : Nat}

/-- Packets of others, sent on by others, leave the way to a node alone. -/
theorem leads_learn (h : r.table.Leads ids destination nextHop since)
    (hsource : p.source ∈ ids) (hlast : p.lastHop ∈ ids) (hother : destination ≠ p.source)
    (hrelay : destination ≠ p.lastHop) (rssi : Int16) (now : Nat) :
    (r.learn p rssi now).table.Leads ids destination nextHop since := by
  have hlearned : (r.learnSource p rssi now).table.Leads ids destination nextHop since := by
    unfold learnSource
    split
    · rw [offer_table]
      exact h.update_ne hsource hother _ _ rssi now
    · exact h
  unfold learn learnRelay
  split
  · rw [offer_table]
    exact hlearned.update_ne hlast hrelay _ _ rssi now
  · exact hlearned

theorem leads_overhear (h : r.table.Leads ids destination nextHop since)
    (hsource : p.source ∈ ids) (hlast : p.lastHop ∈ ids) (hother : destination ≠ p.source)
    (hrelay : destination ≠ p.lastHop) (rssi : Int16) (now : Nat) :
    (r.overhear p rssi now).table.Leads ids destination nextHop since := by
  unfold overhear
  split
  · exact leads_learn h hsource hlast hother hrelay rssi now
  · exact h

/-- A packet that comes near enough teaches a node that knows no route the way back. -/
theorem leads_learn_source (hconfined : r.table.IsConfined ids)
    (hnone : r.table.lookup p.source = none) (hsource : p.source ∈ ids) (hlast : p.lastHop ∈ ids)
    (hnear : p.hopCount.toNat < r.maxHops.toNat - 1) (rssi : Int16) (now : Nat) :
    (r.learn p rssi now).table.Leads ids p.source p.lastHop now := by
  have hlearned : (r.learnSource p rssi now).table.Leads ids p.source p.lastHop now := by
    unfold learnSource
    rw [if_pos hnear, offer_table]
    exact hconfined.leads_update hsource hnone _ _ rssi now
  unfold learn learnRelay
  split
  · rename_i hrelay
    rw [offer_table]
    exact hlearned.update_ne hlast (Ne.symm hrelay.1) _ _ rssi now
  · exact hlearned

end Leads

/-- No packet teaches a way to a node that neither is its source nor sent the copy. -/
theorem lookup_learn_eq_none {destination : NodeId} (hempty : r.table.routes = [])
    (hsource : destination ≠ p.source) (hrelay : destination ≠ p.lastHop) (rssi : Int16)
    (now : Nat) : (r.learn p rssi now).table.lookup destination = none := by
  refine RouteTable.lookup_eq_none_iff.mpr fun e he hsame => ?_
  rcases teaches_of_mem_learn he with hteaches | hbefore
  · cases hteaches with
    | source _ hdestination _ _ => exact hsource (hsame.symm.trans hdestination)
    | relay _ _ _ hdestination _ _ => exact hrelay (hsame.symm.trans hdestination)
  · rw [hempty] at hbefore
    cases hbefore

/-! ## Screening -/

theorem stamps_screenPacket (r : Router) (p : Packet) (rssi : Int16) (now : Nat) :
    r.Stamps now (r.screenPacket p rssi now).2 := by
  unfold screenPacket overhear
  split
  · simp only
    split
    · exact stamps_learn r p rssi now
    · exact Stamps.refl r now
  · rcases DuplicateTracker.observe_eq r.tracker p.key now with ⟨_, h⟩ | ⟨_, h⟩
    · rw [h]
      exact ⟨⟨rfl, rfl, rfl, rfl, rfl, rfl, id, [], rfl⟩, fun _ => Or.inr⟩
    · rw [h]
      have hrecord : r.Stamps now { r with tracker := r.tracker.record p.key now } :=
        ⟨⟨rfl, rfl, rfl, rfl, rfl, rfl, id, [.observe p.key now], congrArg Prod.snd h.symm⟩,
          fun _ => Or.inr⟩
      simp only
      split
      · exact hrecord
      · exact hrecord.trans (stamps_learn _ p rssi now)

theorem stamps_screen (r : Router) (frame : Bytes) (rssi : Int16) (now : Nat) :
    r.Stamps now (r.screen frame rssi now).2 := by
  have hcounted : r.Stamps now { r with stats.received := r.stats.received + 1 } :=
    ⟨⟨rfl, rfl, rfl, rfl, rfl, rfl, id, [], rfl⟩, fun _ => Or.inr⟩
  unfold screen
  cases Packet.decode frame with
  | error e => exact ⟨⟨rfl, rfl, rfl, rfl, rfl, rfl, id, [], rfl⟩, fun _ => Or.inr⟩
  | ok p => exact hcounted.trans (stamps_screenPacket _ p rssi now)

theorem alike_screen (r : Router) (frame : Bytes) (rssi : Int16) (now : Nat) :
    r.Alike (r.screen frame rssi now).2 :=
  (r.stamps_screen frame rssi now).toAlike

theorem teaches_of_mem_screenPacket (h : e ∈ (r.screenPacket p rssi now).2.table.routes) :
    p.source ≠ r.nodeId ∧ Teaches r.nodeId r.maxHops p e ∨ e ∈ r.table.routes := by
  unfold screenPacket overhear at h
  split at h
  · simp only at h
    split at h
    · rename_i hheard
      exact (teaches_of_mem_learn h).imp_left fun hteaches => ⟨hheard.1, hteaches⟩
    · exact Or.inr h
  · rcases DuplicateTracker.observe_eq r.tracker p.key now with ⟨_, hobs⟩ | ⟨_, hobs⟩
    · rw [hobs] at h
      exact Or.inr h
    · rw [hobs] at h
      simp only at h
      split at h
      · exact Or.inr h
      · rename_i hother
        exact (teaches_of_mem_learn h).imp_left fun hteaches => ⟨hother, hteaches⟩

/-- A route that is new after a frame stands in the header of the frame, which is
not one of the node itself. -/
theorem teaches_of_mem_screen (h : e ∈ (r.screen frame rssi now).2.table.routes) :
    (∃ p, Packet.decode frame = .ok p ∧ p.source ≠ r.nodeId ∧
      Teaches r.nodeId r.maxHops p e) ∨ e ∈ r.table.routes := by
  unfold screen at h
  cases hdecode : Packet.decode frame with
  | error err =>
    rw [hdecode] at h
    exact Or.inr h
  | ok p =>
    rw [hdecode] at h
    exact (teaches_of_mem_screenPacket h).imp_left fun hteaches => ⟨p, rfl, hteaches⟩

end Router
end Meshwork
