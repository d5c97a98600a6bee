import Meshwork.Proofs.Station.Conduct

/-!
# Routes that lead nowhere

The header of a frame is not authentic, and what it says of the source and of the
last hop goes into the table. A route can lead through this very node or through
nobody in particular then, but only one that a frame has named so.
-/

namespace Meshwork
set_option autoImplicit false

/-- An identifier that names a device other than this one. -/
structure NodeId.IsPeerOf (own id : NodeId) : Prop where
  other : id ≠ own
  named : id.isReserved = false

/-- A route to another device through another device. -/
structure Route.IsUsable (own : NodeId) (e : Route) : Prop where
  destination : own.IsPeerOf e.destination
  nextHop : own.IsPeerOf e.nextHop

namespace Station

/-- Packets that a router hears in some calls. -/
def Hears (calls : List Call) (p : Packet) : Prop :=
  ∃ frame rssi now keys, .route frame rssi now keys ∈ calls ∧ Packet.decode frame = .ok p

variable {s : Station} {calls : List Call} {p : Packet} {e : Route}

theorem Hears.cons {call : Call} (h : Hears calls p) : Hears (call :: calls) p := by
  obtain ⟨frame, rssi, now, keys, hmem, hdecode⟩ := h
  exact ⟨frame, rssi, now, keys, List.mem_cons_of_mem call hmem, hdecode⟩

/-- Every route of a run was there at the start or stands in a header. -/
theorem teaches_of_mem_run (h : e ∈ (s.run calls).router.table.routes) :
    (∃ p, Hears calls p ∧ p.source ≠ s.router.nodeId ∧
      Teaches s.router.nodeId s.router.maxHops p e) ∨ e ∈ s.router.table.routes := by
  induction calls generalizing s with
  | nil => exact Or.inr h
  | cons call calls ih =>
    have halike := s.alike_perform call
    rcases ih (s := call.perform s) h with ⟨p, hheard, hother, hteaches⟩ | hafter
    · rw [halike.nodeId] at hother hteaches
      rw [halike.maxHops] at hteaches
      exact Or.inl ⟨p, hheard.cons, hother, hteaches⟩
    · rcases teaches_of_mem_perform hafter with
        ⟨frame, rssi, now, keys, p, rfl, hdecode, hother, hteaches⟩ | hbefore
      · exact Or.inl ⟨p, ⟨frame, rssi, now, keys, List.mem_cons_self, hdecode⟩, hother, hteaches⟩
      · exact Or.inr hbefore

/-- In every run of a router that starts without routes, no route ever leads to the
node itself, and each route is usable or stands, word for word, in the header of a
frame that was heard: one whose source is reserved, or whose last hop is this node
or reserved. -/
theorem usable_or_named_in_header (hempty : s.router.table.routes = [])
    (he : e ∈ (s.run calls).router.table.routes) :
    e.destination ≠ s.router.nodeId ∧
      (e.IsUsable s.router.nodeId ∨
        ∃ p, Hears calls p ∧ p.source ≠ s.router.nodeId ∧
          (p.source.isReserved = true ∨ ¬s.router.nodeId.IsPeerOf p.lastHop) ∧
          p.hopCount.toNat < s.router.maxHops.toNat - 1 ∧
          e.destination = p.source ∧ e.nextHop = p.lastHop ∧ e.hopCount = p.hopCount + 1) := by
  rcases teaches_of_mem_run he with ⟨p, hheard, hother, hteaches⟩ | hstart
  · cases hteaches with
    | source hnear hdestination hnext hcount =>
      refine ⟨hdestination ▸ hother, ?_⟩
      by_cases hpeer : s.router.nodeId.IsPeerOf p.lastHop
      · cases hreserved : p.source.isReserved with
        | false =>
          left
          exact ⟨hdestination ▸ ⟨hother, hreserved⟩, hnext ▸ hpeer⟩
        | true =>
          right
          exact ⟨p, hheard, hother, Or.inl hreserved, hnear, hdestination, hnext, hcount⟩
      · right
        exact ⟨p, hheard, hother, Or.inr hpeer, hnear, hdestination, hnext, hcount⟩
    | relay hsource hown hnamed hdestination hnext hcount =>
      have hpeer : s.router.nodeId.IsPeerOf p.lastHop := ⟨hown, hnamed⟩
      exact ⟨hdestination ▸ hown, Or.inl ⟨hdestination ▸ hpeer, hnext ▸ hpeer⟩⟩
  · rw [hempty] at hstart
    cases hstart

/-- A router without routes. -/
def learner : Station where
  router := .create (.standard ⟨9⟩)
  radio := {}
  draws := { source := fun _ _ => [] }

def learnerKeys : KeyRing := { provider := .software }

/-- A ping for node 2, one hop from its source by its header. -/
def namingPacket (source lastHop : NodeId) : Packet :=
  { Packet.fresh source ⟨2⟩ .ping [] 1 with hopCount := 1, lastHop := lastHop }

def naming (source lastHop : NodeId) : Call :=
  .route (Packet.sealBody (namingPacket source lastHop).body) (-70) 0 learnerKeys

/-- A frame that names node 9 as its last hop brings a route through node 9 into the
table of node 9, and one that names everybody as its source a route to everybody. -/
theorem unusable_by_header :
    learner.router.nodeId.isReserved = false ∧ learner.router.table.routes = [] ∧
      ((learner.run [naming ⟨7⟩ ⟨9⟩]).router.table.routes.map fun e => (e.destination, e.nextHop)) =
          [(⟨7⟩, learner.router.nodeId)] ∧
      ((learner.run [naming .broadcast .broadcast]).router.table.routes.map
        fun e => (e.destination, e.nextHop)) = [(.broadcast, .broadcast)] := by
  decide +kernel

theorem usable_or_named_in_header_learner :
    (⟨⟨7⟩, ⟨9⟩, 2, -70, 0⟩ : Route).destination ≠ learner.router.nodeId ∧
      ((⟨⟨7⟩, ⟨9⟩, 2, -70, 0⟩ : Route).IsUsable learner.router.nodeId ∨
        ∃ p, Hears [naming ⟨7⟩ ⟨9⟩] p ∧ p.source ≠ learner.router.nodeId ∧
          (p.source.isReserved = true ∨ ¬learner.router.nodeId.IsPeerOf p.lastHop) ∧
          p.hopCount.toNat < learner.router.maxHops.toNat - 1 ∧
          (⟨⟨7⟩, ⟨9⟩, 2, -70, 0⟩ : Route).destination = p.source ∧
          (⟨⟨7⟩, ⟨9⟩, 2, -70, 0⟩ : Route).nextHop = p.lastHop ∧
          (⟨⟨7⟩, ⟨9⟩, 2, -70, 0⟩ : Route).hopCount = p.hopCount + 1) :=
  @usable_or_named_in_header learner [naming ⟨7⟩ ⟨9⟩] _ rfl (by decide +kernel)

end Station
end Meshwork
