import Mathlib.Data.List.Nodup
import Mathlib.Data.List.Perm.Subperm
import Meshwork.Route.Table

/-!
# Routes in a table

An offer brings no route into a table but the one that is offered, and nothing that is
done to a table puts it out of order or makes it too large. While there is room, the
routes to other destinations stay, and there is room as long as the destinations are
among no more nodes than the table holds routes.
-/

namespace Meshwork
set_option autoImplicit false

theorem NodeId.compare_eq_iff {a b : NodeId} : a.compare b = .eq ↔ a = b := by
  obtain ⟨a⟩ := a
  obtain ⟨b⟩ := b
  simp [NodeId.compare, UInt32.toNat_inj]

namespace RouteTable

variable {t : RouteTable} {r e : Route} {routes : List Route} {destination other nextHop : NodeId}
variable {hopCount : UInt8} {rssi : Int16} {now : Nat}

/-! ## Where routes come from -/

theorem mem_of_mem_insertRoute (h : e ∈ insertRoute r routes) : e = r ∨ e ∈ routes := by
  induction routes with
  | nil => exact Or.inl (List.mem_singleton.mp h)
  | cons s rest ih =>
    unfold insertRoute at h
    split at h
    · exact List.mem_cons.mp h
    · rcases List.mem_cons.mp h with h | h
      · exact Or.inl h
      · exact Or.inr (List.mem_cons_of_mem s h)
    · rcases List.mem_cons.mp h with rfl | h
      · exact Or.inr List.mem_cons_self
      · exact (ih h).imp_right (List.mem_cons_of_mem s)

theorem mem_of_mem_evictWorst (h : e ∈ (t.evictWorst now).routes) : e ∈ t.routes := by
  unfold evictWorst at h
  split at h
  · exact (List.mem_filter.mp h).1
  · exact h

/-- An offer leaves the table as it is, or puts the route in, perhaps for another. -/
theorem update_cases (t : RouteTable) (destination nextHop : NodeId) (hopCount : UInt8)
    (rssi : Int16) (now : Nat) :
    t.update destination nextHop hopCount rssi now = (.kept, t) ∨
      ∃ change t', change ≠ .kept ∧ (t' = t ∨ t' = t.evictWorst now) ∧
        t.update destination nextHop hopCount rssi now =
          (change, t'.put ⟨destination, nextHop, hopCount, rssi, now⟩) := by
  unfold update
  simp only
  split
  · split
    · exact Or.inr ⟨.replaced, t, nofun, Or.inl rfl, rfl⟩
    · exact Or.inl rfl
  · split
    · exact Or.inr ⟨.inserted, _, nofun, Or.inr rfl, rfl⟩
    · exact Or.inr ⟨.inserted, _, nofun, Or.inl rfl, rfl⟩

theorem mem_of_mem_update
    (h : e ∈ (t.update destination nextHop hopCount rssi now).2.routes) :
    e = ⟨destination, nextHop, hopCount, rssi, now⟩ ∨ e ∈ t.routes := by
  rcases t.update_cases destination nextHop hopCount rssi now with heq | ⟨_, t', _, ht', heq⟩
  · rw [heq] at h
    exact Or.inr h
  · rw [heq] at h
    rcases mem_of_mem_insertRoute h with h | h
    · exact Or.inl h
    · rcases ht' with rfl | rfl
      · exact Or.inr h
      · exact Or.inr (mem_of_mem_evictWorst h)

/-- No offer changes what a table is set up with. -/
theorem setup_update (t : RouteTable) (destination nextHop : NodeId) (hopCount : UInt8)
    (rssi : Int16) (now : Nat) :
    (t.update destination nextHop hopCount rssi now).2.timeout = t.timeout ∧
      (t.update destination nextHop hopCount rssi now).2.maxRoutes = t.maxRoutes := by
  have hevict : (t.evictWorst now).timeout = t.timeout ∧
      (t.evictWorst now).maxRoutes = t.maxRoutes := by
    unfold evictWorst
    split <;> exact ⟨rfl, rfl⟩
  rcases t.update_cases destination nextHop hopCount rssi now with h | ⟨_, t', _, ht', h⟩
  · rw [h]
    exact ⟨rfl, rfl⟩
  · rw [h]
    rcases ht' with rfl | rfl
    · exact ⟨rfl, rfl⟩
    · exact hevict

theorem setup_restore (t : RouteTable) (routes : List Route) (now : Nat) :
    (t.restore routes now).timeout = t.timeout ∧
      (t.restore routes now).maxRoutes = t.maxRoutes := by
  unfold restore
  induction routes generalizing t with
  | nil => exact ⟨rfl, rfl⟩
  | cons r routes ih =>
    have hupdate := t.setup_update r.destination r.nextHop r.hopCount r.rssi now
    have hrest := ih (t.update r.destination r.nextHop r.hopCount r.rssi now).2
    exact ⟨hrest.1.trans hupdate.1, hrest.2.trans hupdate.2⟩

theorem mem_of_mem_restore (h : e ∈ (t.restore routes now).routes) :
    e.lastSeen = now ∨ e ∈ t.routes := by
  unfold restore at h
  induction routes generalizing t with
  | nil => exact Or.inr h
  | cons r routes ih =>
    rcases ih h with hnow | hmem
    · exact Or.inl hnow
    · rcases mem_of_mem_update hmem with rfl | hbefore
      · exact Or.inl rfl
      · exact Or.inr hbefore

theorem mem_of_mem_remove (h : e ∈ (t.remove destination).2.routes) : e ∈ t.routes :=
  (List.mem_filter.mp h).1

theorem mem_of_mem_expire (h : e ∈ (t.expire now).2.routes) : e ∈ t.routes :=
  (List.mem_filter.mp h).1

/-! ## Tables in order -/

/-- One route to a destination at most, in order of destination. -/
def IsSorted (t : RouteTable) : Prop :=
  t.routes.Pairwise fun a b => a.destination.value.toNat < b.destination.value.toNat

theorem insertRoute_sorted
    (h : routes.Pairwise fun a b => a.destination.value.toNat < b.destination.value.toNat) :
    (insertRoute r routes).Pairwise
      fun a b => a.destination.value.toNat < b.destination.value.toNat := by
  induction routes with
  | nil => exact List.pairwise_singleton _ _
  | cons s rest ih =>
    obtain ⟨hfirst, hrest⟩ := List.pairwise_cons.mp h
    unfold insertRoute
    split
    · rename_i hlt
      have hbefore : r.destination.value.toNat < s.destination.value.toNat :=
        Nat.compare_eq_lt.mp hlt
      refine List.pairwise_cons.mpr ⟨fun e he => ?_, h⟩
      rcases List.mem_cons.mp he with rfl | he
      · exact hbefore
      · exact Nat.lt_trans hbefore (hfirst e he)
    · rename_i heq
      rw [NodeId.compare_eq_iff] at heq
      exact List.pairwise_cons.mpr ⟨fun e he => heq ▸ hfirst e he, hrest⟩
    · rename_i hgt
      have hafter : s.destination.value.toNat < r.destination.value.toNat :=
        Nat.compare_eq_gt.mp hgt
      refine List.pairwise_cons.mpr ⟨fun e he => ?_, ih hrest⟩
      rcases mem_of_mem_insertRoute he with rfl | he
      · exact hafter
      · exact hfirst e he

theorem IsSorted.nodup (h : t.IsSorted) : (t.routes.map (·.destination)).Nodup :=
  List.pairwise_map.mpr (h.imp fun hlt hsame => by
    rw [hsame] at hlt
    exact Nat.lt_irrefl _ hlt)

/-! ## What is found after an offer -/

theorem find_insertRoute_self :
    (insertRoute r routes).find? (·.destination == r.destination) = some r := by
  induction routes with
  | nil => exact List.find?_cons_of_pos (beq_self_eq_true _)
  | cons s rest ih =>
    unfold insertRoute
    split
    · exact List.find?_cons_of_pos (beq_self_eq_true _)
    · exact List.find?_cons_of_pos (beq_self_eq_true _)
    · rename_i hgt
      have hne : ¬(s.destination == r.destination) = true := by
        intro hsame
        rw [beq_iff_eq] at hsame
        rw [NodeId.compare_eq_iff.mpr hsame.symm] at hgt
        cases hgt
      rw [List.find?_cons_of_neg (p := fun e : Route => e.destination == r.destination) hne]
      exact ih

theorem find_insertRoute_ne (hne : other ≠ r.destination) :
    (insertRoute r routes).find? (·.destination == other) =
      routes.find? (·.destination == other) := by
  have hskip : ¬(r.destination == other) = true := fun h => hne (beq_iff_eq.mp h).symm
  induction routes with
  | nil => exact List.find?_cons_of_neg hskip
  | cons s rest ih =>
    unfold insertRoute
    split
    · exact List.find?_cons_of_neg hskip
    · rename_i heq
      rw [NodeId.compare_eq_iff] at heq
      rw [List.find?_cons_of_neg (p := fun e : Route => e.destination == other) hskip,
        List.find?_cons_of_neg (p := fun e : Route => e.destination == other) (heq ▸ hskip)]
    · rw [List.find?_cons, List.find?_cons, ih]

theorem lookup_put_self (t : RouteTable) (r : Route) : (t.put r).lookup r.destination = some r :=
  find_insertRoute_self

theorem lookup_put_ne (t : RouteTable) (hne : other ≠ r.destination) :
    (t.put r).lookup other = t.lookup other :=
  find_insertRoute_ne hne

theorem lookup_eq_none_iff :
    t.lookup destination = none ↔ ∀ e ∈ t.routes, e.destination ≠ destination := by
  unfold lookup
  rw [List.find?_eq_none]
  simp only [beq_iff_eq]

/-- While a table has room, an offer changes at most the route that it is for. -/
theorem update_room (hroom : t.lookup destination = none → t.size < t.maxRoutes)
    (nextHop : NodeId) (hopCount : UInt8) (rssi : Int16) (now : Nat) :
    (t.update destination nextHop hopCount rssi now).2 = t ∨
      (t.update destination nextHop hopCount rssi now).2 =
        t.put ⟨destination, nextHop, hopCount, rssi, now⟩ := by
  unfold update
  simp only
  split
  · split
    · exact .inr rfl
    · exact .inl rfl
  · rename_i hnone
    rw [if_neg (Nat.not_le_of_lt (hroom hnone))]
    exact .inr rfl

theorem update_new (hnone : t.lookup destination = none) (hroom : t.size < t.maxRoutes)
    (nextHop : NodeId) (hopCount : UInt8) (rssi : Int16) (now : Nat) :
    (t.update destination nextHop hopCount rssi now).2 =
      t.put ⟨destination, nextHop, hopCount, rssi, now⟩ := by
  unfold update
  simp only
  rw [hnone]
  simp only
  rw [if_neg (Nat.not_le_of_lt hroom)]

/-- A route that has not expired is found again after the others were dropped. -/
theorem lookup_expire (h : t.lookup destination = some e) (hrecent : now - e.lastSeen ≤ t.timeout) :
    (t.expire now).2.lookup destination = some e := by
  have hkept : (!e.isExpired now t.timeout) = true := by
    unfold Route.isExpired
    rw [decide_eq_false (Nat.not_lt_of_le hrecent)]
    rfl
  unfold lookup at h ⊢
  unfold expire
  simp only
  generalize t.routes = routes at h
  induction routes with
  | nil => cases h
  | cons s rest ih =>
    by_cases hs : (s.destination == destination) = true
    · have hfirst : ∀ rest : List Route,
          (s :: rest).find? (·.destination == destination) = some s :=
        fun _ => List.find?_cons_of_pos hs
      rw [hfirst] at h
      cases h
      rw [List.filter_cons, if_pos hkept, hfirst]
    · have hskip : ∀ rest : List Route, (s :: rest).find? (·.destination == destination) =
          rest.find? (·.destination == destination) :=
        fun _ => List.find?_cons_of_neg hs
      rw [hskip] at h
      rw [List.filter_cons]
      split
      · rw [hskip]
        exact ih h
      · exact ih h

theorem mem_of_lookup (h : t.lookup destination = some e) :
    e ∈ t.routes ∧ e.destination = destination :=
  ⟨List.mem_of_find?_eq_some h,
    beq_iff_eq.mp (List.find?_some (p := fun r : Route => r.destination == destination) h)⟩

/-- No other route takes the place of one that has expired. -/
theorem IsSorted.lookup_expire_old (hsorted : t.IsSorted) (h : t.lookup destination = some e)
    (hold : t.timeout < now - e.lastSeen) : (t.expire now).2.lookup destination = none := by
  obtain ⟨hmem, hdestination⟩ := mem_of_lookup h
  refine lookup_eq_none_iff.mpr fun r hr hsame => ?_
  obtain ⟨hr, hkept⟩ := List.mem_filter.mp hr
  obtain rfl : r = e :=
    List.inj_on_of_nodup_map hsorted.nodup hr hmem (hsame.trans hdestination.symm)
  unfold Route.isExpired at hkept
  rw [decide_eq_true hold] at hkept
  cases hkept

/-! ## Tables in good order -/

/-- Sorted, with no more routes than there may be. -/
structure IsOrderly (t : RouteTable) : Prop where
  sorted : t.IsSorted
  size : t.size ≤ t.maxRoutes
  room : 0 < t.maxRoutes

theorem isOrderly_create (timeout maxRoutes : Nat) : (create timeout maxRoutes).IsOrderly :=
  ⟨.nil, Nat.zero_le _, Nat.lt_of_lt_of_le Nat.one_pos (Nat.le_max_right _ _)⟩

/-- Dropping routes keeps a table in order. -/
theorem IsOrderly.filter (h : t.IsOrderly) (keep : Route → Bool) :
    ({ t with routes := t.routes.filter keep } : RouteTable).IsOrderly :=
  ⟨List.Pairwise.filter _ h.sorted, Nat.le_trans (List.length_filter_le _ _) h.size, h.room⟩

theorem IsOrderly.remove (h : t.IsOrderly) (destination : NodeId) :
    (t.remove destination).2.IsOrderly :=
  h.filter _

theorem IsOrderly.expire (h : t.IsOrderly) (now : Nat) : (t.expire now).2.IsOrderly :=
  h.filter _

theorem length_insertRoute_le (r : Route) (routes : List Route) :
    (insertRoute r routes).length ≤ routes.length + 1 := by
  induction routes with
  | nil => exact Nat.le_refl 1
  | cons s rest ih =>
    unfold insertRoute
    split
    · exact Nat.le_refl _
    · exact Nat.le_succ _
    · exact Nat.succ_le_succ ih

/-- A route that takes the place of another needs no room. -/
theorem length_insertRoute_of_mem (hsorted : routes.Pairwise
      fun a b => a.destination.value.toNat < b.destination.value.toNat)
    (h : ∃ e ∈ routes, e.destination = r.destination) :
    (insertRoute r routes).length = routes.length := by
  induction routes with
  | nil =>
    obtain ⟨e, he, _⟩ := h
    cases he
  | cons s rest ih =>
    obtain ⟨hfirst, hrest⟩ := List.pairwise_cons.mp hsorted
    obtain ⟨e, he, hsame⟩ := h
    unfold insertRoute
    split
    · rename_i hlt
      have hbefore : r.destination.value.toNat < s.destination.value.toNat :=
        Nat.compare_eq_lt.mp hlt
      rcases List.mem_cons.mp he with rfl | he
      · rw [hsame] at hbefore
        exact absurd hbefore (Nat.lt_irrefl _)
      · have hlater := hfirst e he
        rw [hsame] at hlater
        exact absurd (Nat.lt_trans hbefore hlater) (Nat.lt_irrefl _)
    · rfl
    · rename_i hgt
      have hother : e ∈ rest := by
        rcases List.mem_cons.mp he with rfl | he
        · rw [NodeId.compare_eq_iff.mpr hsame.symm] at hgt
          cases hgt
        · exact he
      exact congrArg Nat.succ (ih hrest ⟨e, hother, hsame⟩)

theorem foldl_pick_mem {pick : Route → Route → Bool} (r : Route) (routes : List Route) :
    routes.foldl (fun w s => if pick s w then w else s) r ∈ r :: routes := by
  induction routes generalizing r with
  | nil => exact List.mem_cons_self
  | cons s routes ih =>
    rw [List.foldl_cons]
    rcases List.mem_cons.mp (ih (if pick s r then r else s)) with hfirst | hrest
    · rw [hfirst]
      split
      · exact List.mem_cons_self
      · exact List.mem_cons_of_mem r List.mem_cons_self
    · exact List.mem_cons_of_mem r (List.mem_cons_of_mem s hrest)

/-- A table that gives up its worst route has one less, if it has any. -/
theorem size_evictWorst (hne : t.routes ≠ []) (now : Nat) :
    (t.evictWorst now).size < t.size := by
  unfold evictWorst
  split
  · rename_i worst hworst
    have hmem : worst ∈ t.routes := by
      cases hroutes : t.routes with
      | nil => exact absurd hroutes hne
      | cons r rest =>
        rw [hroutes] at hworst
        rw [← Option.some.inj hworst]
        exact foldl_pick_mem r rest
    change (t.routes.filter (·.destination != worst.destination)).length < t.routes.length
    apply List.length_filter_lt_length_iff_exists.mpr
    exact ⟨worst, hmem, by simp⟩
  · rename_i hnone
    cases hroutes : t.routes with
    | nil => exact absurd hroutes hne
    | cons r rest =>
      rw [hroutes] at hnone
      cases hnone

theorem IsOrderly.evictWorst (h : t.IsOrderly) (now : Nat) : (t.evictWorst now).IsOrderly := by
  unfold RouteTable.evictWorst
  split
  · exact h.filter _
  · exact h

theorem IsOrderly.put_room (h : t.IsOrderly) (hroom : t.size < t.maxRoutes) (r : Route) :
    (t.put r).IsOrderly :=
  ⟨insertRoute_sorted h.sorted, Nat.le_trans (length_insertRoute_le r t.routes) hroom, h.room⟩

theorem IsOrderly.put_over (h : t.IsOrderly) (r : Route)
    (hmem : ∃ e ∈ t.routes, e.destination = r.destination) : (t.put r).IsOrderly := by
  refine ⟨insertRoute_sorted h.sorted, ?_, h.room⟩
  change (insertRoute r t.routes).length ≤ t.maxRoutes
  rw [length_insertRoute_of_mem h.sorted hmem]
  exact h.size

theorem IsOrderly.update (h : t.IsOrderly) (destination nextHop : NodeId) (hopCount : UInt8)
    (rssi : Int16) (now : Nat) : (t.update destination nextHop hopCount rssi now).2.IsOrderly := by
  unfold RouteTable.update
  simp only
  cases hlookup : t.lookup destination with
  | some existing =>
    simp only
    split
    · exact h.put_over _ ⟨existing, mem_of_lookup hlookup⟩
    · exact h
  | none =>
    simp only
    split
    · rename_i hfull
      have hne : t.routes ≠ [] := by
        intro hempty
        have hroom := h.room
        change t.maxRoutes ≤ t.routes.length at hfull
        rw [hempty] at hfull
        exact absurd hroom (Nat.not_lt.mpr hfull)
      have hless := size_evictWorst hne now
      have hsetup : (t.evictWorst now).maxRoutes = t.maxRoutes := by
        unfold RouteTable.evictWorst
        split
        · rfl
        · rfl
      exact (h.evictWorst now).put_room (by rw [hsetup]; exact Nat.lt_of_lt_of_le hless h.size) _
    · rename_i hroom
      exact h.put_room (Nat.not_le.mp hroom) _

theorem IsOrderly.restore (h : t.IsOrderly) (routes : List Route) (now : Nat) :
    (t.restore routes now).IsOrderly := by
  unfold RouteTable.restore
  induction routes generalizing t with
  | nil => exact h
  | cons r routes ih => exact ih (h.update r.destination r.nextHop r.hopCount r.rssi now)

/-! ## Tables with room for all destinations -/

/-- The destinations are among these nodes, and there is room for all of them. -/
structure IsConfined (t : RouteTable) (ids : List NodeId) : Prop where
  sorted : t.IsSorted
  among : ∀ e ∈ t.routes, e.destination ∈ ids
  room : ids.length ≤ t.maxRoutes

variable {ids : List NodeId} {since : Nat}

theorem IsConfined.size_lt (h : t.IsConfined ids) (hid : destination ∈ ids)
    (hnone : t.lookup destination = none) : t.size < t.maxRoutes := by
  have hnew : destination ∉ t.routes.map (·.destination) := by
    intro hmem
    obtain ⟨e, he, hsame⟩ := List.mem_map.mp hmem
    exact lookup_eq_none_iff.mp hnone e he hsame
  have hall : destination :: t.routes.map (·.destination) ⊆ ids := by
    refine List.cons_subset.mpr ⟨hid, fun id hmem => ?_⟩
    obtain ⟨e, he, rfl⟩ := List.mem_map.mp hmem
    exact h.among e he
  have hcount :=
    (List.subperm_of_subset (List.nodup_cons.mpr ⟨hnew, h.sorted.nodup⟩) hall).length_le
  rw [List.length_cons, List.length_map] at hcount
  exact Nat.lt_of_lt_of_le hcount h.room

theorem IsConfined.put (h : t.IsConfined ids) (hid : r.destination ∈ ids) :
    (t.put r).IsConfined ids := by
  refine ⟨insertRoute_sorted h.sorted, fun e he => ?_, h.room⟩
  rcases mem_of_mem_insertRoute he with rfl | he
  · exact hid
  · exact h.among e he

theorem IsConfined.update (h : t.IsConfined ids) (hid : destination ∈ ids) (nextHop : NodeId)
    (hopCount : UInt8) (rssi : Int16) (now : Nat) :
    (t.update destination nextHop hopCount rssi now).2.IsConfined ids := by
  rcases update_room (h.size_lt hid) nextHop hopCount rssi now with hsame | hput
  · rw [hsame]
    exact h
  · rw [hput]
    exact h.put hid

theorem IsConfined.expire (h : t.IsConfined ids) (now : Nat) : (t.expire now).2.IsConfined ids :=
  ⟨List.Pairwise.filter _ h.sorted, fun e he => h.among e (mem_of_mem_expire he), h.room⟩

theorem isConfined_of_nil (hempty : t.routes = []) (hroom : ids.length ≤ t.maxRoutes) :
    t.IsConfined ids := by
  refine ⟨?_, ?_, hroom⟩
  · unfold IsSorted
    rw [hempty]
    exact .nil
  · rw [hempty]
    exact fun _ he => absurd he List.not_mem_nil

/-- Besides, the table leads to a destination through this neighbour, as it was heard
no earlier than this. -/
structure Leads (t : RouteTable) (ids : List NodeId) (destination nextHop : NodeId) (since : Nat) :
    Prop extends IsConfined t ids where
  route : ∃ e, t.lookup destination = some e ∧ e.nextHop = nextHop ∧ since ≤ e.lastSeen

theorem Leads.expire (h : t.Leads ids destination nextHop since)
    (hrecent : now - since ≤ t.timeout) : (t.expire now).2.Leads ids destination nextHop since := by
  obtain ⟨e, hlookup, hnext, hseen⟩ := h.route
  exact ⟨h.toIsConfined.expire now, e, lookup_expire hlookup (by omega), hnext, hseen⟩

theorem Leads.update_ne (h : t.Leads ids destination nextHop since) (hid : other ∈ ids)
    (hne : destination ≠ other) (via : NodeId) (hopCount : UInt8) (rssi : Int16) (now : Nat) :
    (t.update other via hopCount rssi now).2.Leads ids destination nextHop since := by
  obtain ⟨e, hlookup, hnext, hseen⟩ := h.route
  refine ⟨h.toIsConfined.update hid via hopCount rssi now, e, ?_, hnext, hseen⟩
  rcases update_room (h.size_lt hid) via hopCount rssi now with hsame | hput
  · rw [hsame]
    exact hlookup
  · rw [hput, lookup_put_ne _ hne]
    exact hlookup

theorem IsConfined.leads_update (h : t.IsConfined ids) (hid : destination ∈ ids)
    (hnone : t.lookup destination = none) (nextHop : NodeId) (hopCount : UInt8) (rssi : Int16)
    (now : Nat) :
    (t.update destination nextHop hopCount rssi now).2.Leads ids destination nextHop now := by
  refine ⟨h.update hid nextHop hopCount rssi now, ⟨destination, nextHop, hopCount, rssi, now⟩, ?_,
    rfl, Nat.le_refl now⟩
  rw [update_new hnone (h.size_lt hid hnone), lookup_put_self]

end RouteTable
end Meshwork
