import Meshwork.Proofs.Route.Ranking

/-!
# Which route a full table gives up

A table files each route under its destination, in order, and never holds more than it
may. For a new destination a full table gives up exactly one route: one that has expired if
there is any, and of those that are alike in this one that is better than none.
-/

namespace Meshwork
set_option autoImplicit false

namespace Route

/-- What the routes of a full table are compared by, greatest for the one that goes. -/
def standing (now timeout : Nat) (r : Route) : Bool ×ₗ ℕ ×ₗ ℤᵒᵈ ×ₗ ℕᵒᵈ :=
  toLex (r.isExpired now timeout, r.rank)

variable {a b : Route} {now timeout : Nat}

theorem standing_le_iff : a.standing now timeout ≤ b.standing now timeout ↔
    a.isExpired now timeout < b.isExpired now timeout ∨
      a.isExpired now timeout = b.isExpired now timeout ∧ a.rank ≤ b.rank :=
  Prod.Lex.toLex_le_toLex

theorem outlasts_iff :
    a.outlasts b now timeout = true ↔ a.standing now timeout < b.standing now timeout := by
  rw [standing, standing, Prod.Lex.toLex_lt_toLex, outlasts, ← isBetterThan_iff]
  cases a.isExpired now timeout with
  | true => cases b.isExpired now timeout <;> simp
  | false => cases b.isExpired now timeout <;> simp

end Route

namespace RouteTable

variable {t : RouteTable} {destination : NodeId} {e first : Route} {routes : List Route}
variable {now timeout : Nat}

/-! ## The worst route -/

theorem standing_le_foldl (first : Route) (routes : List Route) :
    ∀ r ∈ first :: routes, r.standing now timeout ≤
      (routes.foldl (fun w s => if s.outlasts w now timeout then w else s) first).standing now
        timeout := by
  induction routes generalizing first with
  | nil =>
    intro r hr
    exact le_of_eq (congrArg _ (List.mem_singleton.mp hr))
  | cons s routes ih =>
    intro r hr
    rw [List.foldl_cons]
    -- Whichever of the two is picked stands no lower than either.
    have hpick : ∀ r, r = first ∨ r = s → r.standing now timeout ≤
        (if s.outlasts first now timeout then first else s).standing now timeout := by
      intro r hr
      cases houtlasts : s.outlasts first now timeout with
      | true =>
        rw [if_pos rfl]
        rcases hr with rfl | rfl
        · exact le_refl _
        · exact (Route.outlasts_iff.mp houtlasts).le
      | false =>
        rw [if_neg Bool.false_ne_true]
        rw [← Bool.not_eq_true, Route.outlasts_iff, not_lt] at houtlasts
        rcases hr with rfl | rfl
        · exact houtlasts
        · exact le_refl _
    have hpicked := ih (if s.outlasts first now timeout then first else s) _ List.mem_cons_self
    rcases List.mem_cons.mp hr with rfl | hr
    · exact (hpick r (Or.inl rfl)).trans hpicked
    · rcases List.mem_cons.mp hr with rfl | hr
      · exact (hpick r (Or.inr rfl)).trans hpicked
      · exact ih _ r (List.mem_cons_of_mem _ hr)

theorem worst?_eq_some (h : worst? now timeout routes = some e) :
    e ∈ routes ∧ ∀ r ∈ routes, r.standing now timeout ≤ e.standing now timeout := by
  cases routes with
  | nil => cases h
  | cons first rest =>
    rw [← Option.some.inj h]
    exact ⟨foldl_pick_mem first rest, standing_le_foldl first rest⟩

/-! ## One route for another -/

theorem IsSorted.eraseRoute_eq_erase (h : t.IsSorted) (he : e ∈ t.routes) :
    eraseRoute e.destination t.routes = t.routes.erase e := by
  have hnodup : t.routes.Nodup := List.Nodup.of_map _ h.nodup
  rw [hnodup.erase_eq_filter]
  refine List.filter_congr fun r hr => ?_
  rw [Bool.eq_iff_iff, bne_iff_ne, bne_iff_ne]
  exact not_congr ⟨List.inj_on_of_nodup_map h.nodup hr he, congrArg Route.destination⟩

theorem insertRoute_perm {r : Route} (hnew : ∀ e ∈ routes, e.destination ≠ r.destination) :
    (insertRoute r routes).Perm (r :: routes) := by
  induction routes with
  | nil => exact .refl _
  | cons s rest ih =>
    unfold insertRoute
    split
    · exact .refl _
    · rename_i hsame
      exact absurd (NodeId.compare_eq_iff.mp hsame).symm (hnew s List.mem_cons_self)
    · have hrest := ih fun e he => hnew e (List.mem_cons_of_mem s he)
      exact (hrest.cons s).trans (.swap r s rest)

/-- A table that gives up a route gives up the worst that it has. -/
theorem IsSorted.evictWorst_eq (h : t.IsSorted) (hne : t.routes ≠ []) (now : Nat) :
    ∃ e ∈ t.routes, (∀ r ∈ t.routes, r.standing now t.timeout ≤ e.standing now t.timeout) ∧
      t.evictWorst now = { t with routes := t.routes.erase e } := by
  unfold evictWorst
  cases hworst : worst? now t.timeout t.routes with
  | none =>
    cases hroutes : t.routes with
    | nil => exact absurd hroutes hne
    | cons r rest =>
      rw [hroutes] at hworst
      cases hworst
  | some e =>
    obtain ⟨hmem, hstanding⟩ := worst?_eq_some hworst
    refine ⟨e, hmem, hstanding, ?_⟩
    simp only
    rw [h.eraseRoute_eq_erase hmem]

theorem update_full (hnone : t.lookup destination = none) (hfull : t.maxRoutes ≤ t.size)
    (nextHop : NodeId) (hopCount : UInt8) (rssi : Int16) (now : Nat) :
    t.update destination nextHop hopCount rssi now =
      (.inserted, (t.evictWorst now).put ⟨destination, nextHop, hopCount, rssi, now⟩) := by
  unfold update
  simp only
  rw [hnone]
  simp only
  rw [if_pos hfull]

/-- Whatever is done to a new table: it finds each of its routes under the destination of
the route and nothing else, holds no more of them than it may, and lists them in order of
destination. Offered a route to a destination that it does not know when it is full, it
takes it and gives up one route, which has expired if any other has, and is better than no
other that has expired if it has, or that has not if it has not. -/
theorem bounded_worst_first (timeout maxRoutes : Nat) (acts : List Act) :
    let t := (create timeout maxRoutes).run acts
    (∀ destination e, t.lookup destination = some e ↔ e ∈ t.routes ∧ e.destination = destination) ∧
      t.size ≤ max maxRoutes 1 ∧
      t.routes.Pairwise (fun a b => a.destination.value.toNat < b.destination.value.toNat) ∧
      ∀ (destination nextHop : NodeId) (hopCount : UInt8) (rssi : Int16) (now : Nat),
        t.lookup destination = none → max maxRoutes 1 ≤ t.size →
        ∃ e ∈ t.routes,
          (t.update destination nextHop hopCount rssi now).1 = .inserted ∧
          (t.update destination nextHop hopCount rssi now).2.routes.Perm
            (⟨destination, nextHop, hopCount, rssi, now⟩ :: t.routes.erase e) ∧
          ∀ r ∈ t.routes, r ≠ e →
            (r.isExpired now timeout = true → e.isExpired now timeout = true) ∧
            (r.isExpired now timeout = e.isExpired now timeout → e.isBetterThan r = false) := by
  intro t
  obtain ⟨htimeout, hmax⟩ : t.timeout = timeout ∧ t.maxRoutes = max maxRoutes 1 :=
    setup_run (create timeout maxRoutes) acts
  have horderly : t.IsOrderly := (isOrderly_create timeout maxRoutes).run acts
  refine ⟨fun destination e => horderly.sorted.lookup_eq_some_iff, hmax ▸ horderly.size,
    horderly.sorted, fun destination nextHop hopCount rssi now hnone hfull => ?_⟩
  have hne : t.routes ≠ [] := by
    intro hempty
    have hroom : 0 < t.size := Nat.lt_of_lt_of_le (hmax ▸ horderly.room) hfull
    rw [size, hempty] at hroom
    exact absurd hroom (Nat.lt_irrefl 0)
  obtain ⟨e, hmem, hstanding, hevict⟩ := horderly.sorted.evictWorst_eq hne now
  have hupdate := update_full hnone (hmax ▸ hfull) nextHop hopCount rssi now
  rw [hevict] at hupdate
  rw [hupdate]
  have hnew := lookup_eq_none_iff.mp hnone
  refine ⟨e, hmem, rfl, insertRoute_perm fun r hr => hnew r (List.mem_of_mem_erase hr),
    fun r hr _ => ?_⟩
  have hworse := Route.standing_le_iff.mp (hstanding r hr)
  rw [htimeout] at hworse
  refine ⟨fun hexpired => ?_, fun hsame => ?_⟩
  · rcases hworse with hless | ⟨hsame, _⟩
    · exact (Bool.lt_iff.mp hless).2
    · exact hsame ▸ hexpired
  · rcases hworse with hless | ⟨_, hrank⟩
    · exact absurd hsame hless.ne
    · exact Route.isBetterThan_eq_false_iff.mpr hrank

/-- A table for two routes, one of which has expired when a third is offered. -/
theorem bounded_worst_first_expired :
    let t := (create 100 2).run [.update ⟨7⟩ ⟨7⟩ 1 (-60) 0, .update ⟨8⟩ ⟨7⟩ 5 (-90) 90]
    ∃ e ∈ t.routes, e.isExpired 150 100 = true ∧
      (t.update ⟨9⟩ ⟨9⟩ 1 (-70) 150).2.routes.Perm
        (⟨⟨9⟩, ⟨9⟩, 1, -70, 150⟩ :: t.routes.erase e) := by
  intro t
  obtain ⟨e, hmem, _, hperm, hworst⟩ := (bounded_worst_first 100 2
    [.update ⟨7⟩ ⟨7⟩ 1 (-60) 0, .update ⟨8⟩ ⟨7⟩ 5 (-90) 90]).2.2.2 ⟨9⟩ ⟨9⟩ 1 (-70) 150 rfl
    (by decide)
  refine ⟨e, hmem, ?_, hperm⟩
  have hold : Route.mk ⟨7⟩ ⟨7⟩ 1 (-60) 0 ∈ t.routes := List.mem_cons_self
  by_cases hsame : Route.mk ⟨7⟩ ⟨7⟩ 1 (-60) 0 = e
  · rw [← hsame]
    rfl
  · exact (hworst _ hold hsame).1 rfl

end RouteTable
end Meshwork
