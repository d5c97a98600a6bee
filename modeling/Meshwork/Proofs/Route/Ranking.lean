import Mathlib.Data.Prod.Lex
import Mathlib.Order.RelClasses
import Meshwork.Proofs.Route.Histories

/-!
# The best route

Routes are compared by rank, so that of any two that are equally good a third is better
than both or than neither. As long as a table keeps a route to a node, that route is the
best of all that were offered to it since, provided that none was offered when the one
that was there had expired: then the new one is taken whatever it is.
-/

namespace Meshwork
set_option autoImplicit false

namespace Route

/-- What routes are compared by, smaller for the better: the hops, then the signal, then
the time, of which more is better. -/
def rank (r : Route) : ℕ ×ₗ ℤᵒᵈ ×ₗ ℕᵒᵈ :=
  toLex (r.hopCount.toNat, toLex (OrderDual.toDual r.rssi.toInt, OrderDual.toDual r.lastSeen))

variable {a b c e : Route} {offers : List Route}

theorem isBetterThan_iff : a.isBetterThan b = true ↔ a.rank < b.rank := by
  simp only [isBetterThan, rank, Prod.Lex.toLex_lt_toLex, OrderDual.toDual_lt_toDual,
    OrderDual.toDual_inj, Bool.or_eq_true, Bool.and_eq_true, decide_eq_true_eq, beq_iff_eq,
    UInt8.lt_iff_toNat_lt, UInt8.toNat_inj, Int16.toInt_inj, eq_comm (a := b.rssi)]

theorem isBetterThan_eq_false_iff : a.isBetterThan b = false ↔ b.rank ≤ a.rank := by
  rw [← Bool.not_eq_true, isBetterThan_iff, not_lt]

theorem isStrictWeakOrder_isBetterThan :
    IsStrictWeakOrder Route fun a b => a.isBetterThan b = true := by
  have hrank : (fun a b : Route => a.isBetterThan b = true) = Order.Preimage rank (· < ·) := by
    funext a b
    exact propext isBetterThan_iff
  have hranks : IsStrictWeakOrder (ℕ ×ₗ ℤᵒᵈ ×ₗ ℕᵒᵈ) (· < ·) :=
    isStrictWeakOrder_of_isOrderConnected
  rw [hrank]
  infer_instance

/-! ## The best of some offers -/

/-- One of these routes, with none of them better. -/
def IsBest (e : Route) (offers : List Route) : Prop :=
  e ∈ offers ∧ ∀ c ∈ offers, c.isBetterThan e = false

theorem isBest_singleton (e : Route) : e.IsBest [e] := by
  refine ⟨List.mem_singleton_self e, fun c hc => ?_⟩
  rw [List.mem_singleton.mp hc, isBetterThan_eq_false_iff]

/-- The better of the best so far and one more is the best again. -/
theorem IsBest.offer (h : e.IsBest offers) (c : Route) :
    (if c.isBetterThan e then c else e).IsBest (offers ++ [c]) := by
  obtain ⟨hmem, hbest⟩ := h
  cases hbetter : c.isBetterThan e with
  | true =>
    rw [if_pos rfl]
    have hlower : c.rank < e.rank := isBetterThan_iff.mp hbetter
    refine ⟨List.mem_append_right _ (List.mem_singleton_self c), fun r hr => ?_⟩
    rw [isBetterThan_eq_false_iff]
    rcases List.mem_append.mp hr with hr | hr
    · exact hlower.le.trans (isBetterThan_eq_false_iff.mp (hbest r hr))
    · exact le_of_eq (congrArg rank (List.mem_singleton.mp hr).symm)
  | false =>
    rw [if_neg Bool.false_ne_true]
    refine ⟨List.mem_append_left _ hmem, fun r hr => ?_⟩
    rcases List.mem_append.mp hr with hr | hr
    · exact hbest r hr
    · exact List.mem_singleton.mp hr ▸ hbetter

end Route

namespace RouteTable

variable {t : RouteTable} {destination : NodeId} {e : Route} {offers : List Route}

/-! ## Operations step by step -/

/-- What an operation does to a table at a time. -/
inductive Step where
  | offer (candidate : Route)
  | remove (destination : NodeId)
  | expire (now : Nat)

/-- To take up stored routes is to offer them one after the other. -/
def Act.steps : Act → List Step
  | .update destination nextHop hopCount rssi now =>
    [.offer ⟨destination, nextHop, hopCount, rssi, now⟩]
  | .remove destination => [.remove destination]
  | .expire now => [.expire now]
  | .restore routes now => routes.map fun r => .offer { r with lastSeen := now }

def advance (t : RouteTable) : Step → RouteTable
  | .offer c => (t.update c.destination c.nextHop c.hopCount c.rssi c.lastSeen).2
  | .remove destination => (t.remove destination).2
  | .expire now => (t.expire now).2

def follow (t : RouteTable) (steps : List Step) : RouteTable := steps.foldl advance t

theorem follow_append (t : RouteTable) (steps more : List Step) :
    t.follow (steps ++ more) = (t.follow steps).follow more :=
  List.foldl_append

theorem follow_steps (t : RouteTable) (act : Act) : t.follow act.steps = t.perform act := by
  cases act with
  | restore routes now => exact List.foldl_map
  | _ => rfl

theorem follow_flatMap_steps (t : RouteTable) (acts : List Act) :
    t.follow (acts.flatMap Act.steps) = t.run acts := by
  induction acts generalizing t with
  | nil => rfl
  | cons act acts ih =>
    rw [List.flatMap_cons, follow_append, follow_steps]
    exact ih (t.perform act)

theorem IsOrderly.advance (h : t.IsOrderly) (step : Step) : (t.advance step).IsOrderly := by
  cases step with
  | offer c => exact h.update c.destination c.nextHop c.hopCount c.rssi c.lastSeen
  | remove destination => exact h.remove destination
  | expire now => exact h.expire now

theorem IsOrderly.follow (h : t.IsOrderly) (steps : List Step) : (t.follow steps).IsOrderly := by
  unfold RouteTable.follow
  induction steps generalizing t with
  | nil => exact h
  | cons step steps ih => exact ih (h.advance step)

/-! ## What becomes of the route to one node -/

/-- The route that a step offers for a destination, if it offers one. -/
def Step.offer? (destination : NodeId) : Step → Option Route
  | .offer candidate => if candidate.destination = destination then some candidate else none
  | _ => none

def offered (destination : NodeId) (steps : List Step) : List Route :=
  steps.filterMap (·.offer? destination)

/-- Step after step the table keeps a route to the destination, and no other is offered
when the one that is there has expired. -/
def Keeps (destination : NodeId) : RouteTable → List Step → Prop
  | t, [] => t.lookup destination ≠ none
  | t, step :: steps =>
    (∃ e, t.lookup destination = some e ∧
      ∀ c, step.offer? destination = some c → e.isExpired c.lastSeen t.timeout = false) ∧
    Keeps destination (t.advance step) steps

theorem Keeps.lookup_ne_none {steps : List Step} (h : t.Keeps destination steps) :
    t.lookup destination ≠ none := by
  cases steps with
  | nil => exact h
  | cons step steps =>
    obtain ⟨⟨e, hlookup, _⟩, _⟩ := h
    rw [hlookup]
    exact nofun

theorem IsSorted.lookup_eq_some_iff (h : t.IsSorted) :
    t.lookup destination = some e ↔ e ∈ t.routes ∧ e.destination = destination := by
  refine ⟨mem_of_lookup, fun ⟨hmem, hdestination⟩ => ?_⟩
  cases hlookup : t.lookup destination with
  | none => exact absurd hdestination (lookup_eq_none_iff.mp hlookup e hmem)
  | some r =>
    obtain ⟨hr, hsame⟩ := mem_of_lookup hlookup
    rw [List.inj_on_of_nodup_map h.nodup hr hmem (hsame.trans hdestination.symm)]

/-- Where routes are dropped, a route that is still found is the one that was there. -/
theorem IsSorted.lookup_filter (h : t.IsSorted) (hlookup : t.lookup destination = some e)
    {keep : Route → Bool}
    (hstays : ({ t with routes := t.routes.filter keep } : RouteTable).lookup destination ≠ none) :
    ({ t with routes := t.routes.filter keep } : RouteTable).lookup destination = some e := by
  obtain ⟨r, hr⟩ := Option.ne_none_iff_exists'.mp hstays
  obtain ⟨hmem, hsame⟩ := mem_of_lookup hr
  have hbefore : t.lookup destination = some r :=
    h.lookup_eq_some_iff.mpr ⟨(List.mem_filter.mp hmem).1, hsame⟩
  rw [hr, ← hbefore, hlookup]

theorem IsSorted.lookup_evictWorst (h : t.IsSorted) (hlookup : t.lookup destination = some e)
    {now : Nat} (hstays : (t.evictWorst now).lookup destination ≠ none) :
    (t.evictWorst now).lookup destination = some e := by
  unfold evictWorst at hstays ⊢
  split at hstays
  · exact h.lookup_filter hlookup hstays
  · exact hlookup

/-- An offer for the node of a route that has not expired is taken if it is better. -/
theorem lookup_update_self {c : Route} (hlookup : t.lookup c.destination = some e)
    (hrecent : e.isExpired c.lastSeen t.timeout = false) :
    (t.update c.destination c.nextHop c.hopCount c.rssi c.lastSeen).2.lookup c.destination =
      some (if c.isBetterThan e then c else e) := by
  unfold update
  simp only [hlookup, hrecent, Bool.false_or]
  split
  · exact lookup_put_self t c
  · exact hlookup

/-- A step leaves the route to a node as it is, unless it offers a better one. -/
theorem IsOrderly.lookup_advance (h : t.IsOrderly) {step : Step}
    (hlookup : t.lookup destination = some e)
    (hrecent : ∀ c, step.offer? destination = some c → e.isExpired c.lastSeen t.timeout = false)
    (hstays : (t.advance step).lookup destination ≠ none) :
    (t.advance step).lookup destination = some (match step.offer? destination with
      | some c => if c.isBetterThan e then c else e
      | none => e) := by
  cases step with
  | remove other => exact h.sorted.lookup_filter hlookup hstays
  | expire now => exact h.sorted.lookup_filter hlookup hstays
  | offer c =>
    by_cases hsame : c.destination = destination
    · have hoffer : (Step.offer c).offer? destination = some c := if_pos hsame
      rw [hoffer]
      subst hsame
      exact lookup_update_self hlookup (hrecent c hoffer)
    · have hoffer : (Step.offer c).offer? destination = none := if_neg hsame
      rw [hoffer]
      simp only [RouteTable.advance] at hstays ⊢
      rcases t.update_cases c.destination c.nextHop c.hopCount c.rssi c.lastSeen with
        hkept | ⟨_, t', _, ht', hput⟩
      · rw [hkept]
        exact hlookup
      · rw [hput] at hstays ⊢
        simp only at hstays ⊢
        rw [lookup_put_ne t' (Ne.symm hsame)] at hstays ⊢
        rcases ht' with rfl | rfl
        · exact hlookup
        · exact h.sorted.lookup_evictWorst hlookup hstays

/-- The best route so far stays the best of what is offered besides. -/
theorem IsOrderly.lookup_follow (h : t.IsOrderly) {steps : List Step}
    (hlookup : t.lookup destination = some e) (hbest : e.IsBest offers)
    (hkeeps : t.Keeps destination steps) :
    ∃ e', (t.follow steps).lookup destination = some e' ∧
      e'.IsBest (offers ++ offered destination steps) := by
  induction steps generalizing t e offers with
  | nil => exact ⟨e, hlookup, (List.append_nil offers).symm ▸ hbest⟩
  | cons step steps ih =>
    obtain ⟨⟨e', hlookup', hrecent⟩, hrest⟩ := hkeeps
    obtain rfl : e = e' := Option.some.inj (hlookup.symm.trans hlookup')
    have hnext := h.lookup_advance hlookup hrecent hrest.lookup_ne_none
    cases hoffer : step.offer? destination with
    | none =>
      rw [hoffer] at hnext
      have hoffered : offered destination (step :: steps) = offered destination steps :=
        List.filterMap_cons_none hoffer
      rw [hoffered]
      exact ih (h.advance step) hnext hbest hrest
    | some c =>
      rw [hoffer] at hnext
      have hoffered : offered destination (step :: steps) = c :: offered destination steps :=
        List.filterMap_cons_some hoffer
      rw [hoffered, List.append_cons]
      exact ih (h.advance step) hnext (hbest.offer c) hrest

theorem lookup_update_new {c : Route} (hnone : t.lookup c.destination = none) :
    (t.update c.destination c.nextHop c.hopCount c.rssi c.lastSeen).2.lookup c.destination =
      some c := by
  unfold update
  simp only [hnone]
  exact lookup_put_self _ c

theorem update_kept {nextHop : NodeId} {hopCount : UInt8} {rssi : Int16} {now : Nat}
    (h : (t.update destination nextHop hopCount rssi now).1 = .kept) :
    (t.update destination nextHop hopCount rssi now).2 = t := by
  rcases t.update_cases destination nextHop hopCount rssi now with
    hkept | ⟨change, t', hne, _, hput⟩
  · rw [hkept]
  · rw [hput] at h
    exact absurd h hne

/-- To be better is a strict weak order. Whatever is done to a table, step by step: of a
route that comes in for a node without one and of all that are offered for that node from
then on, the table holds one that none of them is better than, as long as it keeps a route
to the node and is offered none when that route has expired. And an offer that is not taken
changes nothing. -/
theorem holds_best :
    (IsStrictWeakOrder Route fun a b => a.isBetterThan b = true) ∧
      (∀ (t : RouteTable) (acts : List Act) (before since : List Step) (first : Route),
        t.IsOrderly → acts.flatMap Act.steps = before ++ .offer first :: since →
        (t.follow before).lookup first.destination = none →
        ((t.follow before).advance (.offer first)).Keeps first.destination since →
        ∃ e, (t.run acts).lookup first.destination = some e ∧
          e ∈ first :: offered first.destination since ∧
          ∀ c ∈ first :: offered first.destination since, c.isBetterThan e = false) ∧
      ∀ (t : RouteTable) (destination nextHop : NodeId) (hopCount : UInt8) (rssi : Int16)
        (now : Nat), (t.update destination nextHop hopCount rssi now).1 = .kept →
        (t.update destination nextHop hopCount rssi now).2 = t := by
  refine ⟨Route.isStrictWeakOrder_isBetterThan, ?_, fun _ _ _ _ _ _ => update_kept⟩
  intro t acts before since first horderly hsteps hnone hkeeps
  have hafter : t.run acts = ((t.follow before).advance (.offer first)).follow since := by
    rw [← follow_flatMap_steps, hsteps, follow_append]
    rfl
  have hinserted : ((t.follow before).advance (.offer first)).lookup first.destination =
      some first := lookup_update_new hnone
  rw [hafter]
  exact ((horderly.follow before).advance (.offer first)).lookup_follow hinserted
    (Route.isBest_singleton first) hkeeps

/-- A route of two hops, offered again less loud and then louder; what is known of another
node is dropped meanwhile, and one offer comes from a snapshot. -/
theorem holds_best_louder :
    let acts : List Act := [.update ⟨8⟩ ⟨8⟩ 1 (-60) 0, .update ⟨7⟩ ⟨5⟩ 2 (-80) 60,
      .update ⟨7⟩ ⟨6⟩ 2 (-90) 70, .expire 120, .restore [⟨⟨7⟩, ⟨4⟩, 2, -70, 0⟩] 130]
    ∃ e, ((create 100 8).run acts).lookup ⟨7⟩ = some e ∧ e.nextHop = ⟨4⟩ ∧
      (Route.mk ⟨7⟩ ⟨5⟩ 2 (-80) 60).isBetterThan e = false := by
  intro acts
  have hsteps : acts.flatMap Act.steps = [Step.offer ⟨⟨8⟩, ⟨8⟩, 1, -60, 0⟩] ++
      .offer ⟨⟨7⟩, ⟨5⟩, 2, -80, 60⟩ :: [.offer ⟨⟨7⟩, ⟨6⟩, 2, -90, 70⟩, .expire 120,
        .offer ⟨⟨7⟩, ⟨4⟩, 2, -70, 130⟩] := rfl
  have hkeeps : (((create 100 8).follow [.offer ⟨⟨8⟩, ⟨8⟩, 1, -60, 0⟩]).advance
      (.offer ⟨⟨7⟩, ⟨5⟩, 2, -80, 60⟩)).Keeps ⟨7⟩ [.offer ⟨⟨7⟩, ⟨6⟩, 2, -90, 70⟩, .expire 120,
        .offer ⟨⟨7⟩, ⟨4⟩, 2, -70, 130⟩] := by
    refine ⟨⟨_, rfl, ?_⟩, ⟨_, rfl, nofun⟩, ⟨_, rfl, ?_⟩, nofun⟩
    · rintro c ⟨⟩
      rfl
    · rintro c ⟨⟩
      rfl
  obtain ⟨e, hlookup, _, hbest⟩ := holds_best.2.1 (create 100 8) acts _ _ _
    (isOrderly_create 100 8) hsteps rfl hkeeps
  obtain rfl : Route.mk ⟨7⟩ ⟨4⟩ 2 (-70) 130 = e := Option.some.inj hlookup
  exact ⟨_, hlookup, rfl, hbest _ List.mem_cons_self⟩

end RouteTable
end Meshwork
