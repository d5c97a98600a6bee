import Meshwork.Proofs.Route.Table

/-!
# Routes that are heard again

Any sequence of operations leaves a table in order. A route that is heard again is taken
for heard at that time only if it is heard no less loud than before: the table prefers the
louder of two routes of one length, and to keep a route is to keep its time.
-/

namespace Meshwork
set_option autoImplicit false

namespace RouteTable

/-- What can be done to a table. -/
inductive Act where
  | update (destination nextHop : NodeId) (hopCount : UInt8) (rssi : Int16) (now : Nat)
  | remove (destination : NodeId)
  | expire (now : Nat)
  | restore (routes : List Route) (now : Nat)

def perform (t : RouteTable) : Act → RouteTable
  | .update destination nextHop hopCount rssi now =>
    (t.update destination nextHop hopCount rssi now).2
  | .remove destination => (t.remove destination).2
  | .expire now => (t.expire now).2
  | .restore routes now => t.restore routes now

def run (t : RouteTable) (acts : List Act) : RouteTable := acts.foldl perform t

variable {t : RouteTable} {e : Route} {destination : NodeId} {rssi : Int16} {now later : Nat}
variable {timeout maxRoutes : Nat}

theorem IsOrderly.perform (h : t.IsOrderly) (act : Act) : (t.perform act).IsOrderly := by
  cases act with
  | update destination nextHop hopCount rssi now =>
    exact h.update destination nextHop hopCount rssi now
  | remove destination => exact h.remove destination
  | expire now => exact h.expire now
  | restore routes now => exact h.restore routes now

theorem IsOrderly.run (h : t.IsOrderly) (acts : List Act) : (t.run acts).IsOrderly := by
  unfold RouteTable.run
  induction acts generalizing t with
  | nil => exact h
  | cons act acts ih => exact ih (h.perform act)

/-- No operation changes what a table is set up with. -/
theorem setup_run (t : RouteTable) (acts : List Act) :
    (t.run acts).timeout = t.timeout ∧ (t.run acts).maxRoutes = t.maxRoutes := by
  unfold run
  induction acts generalizing t with
  | nil => exact ⟨rfl, rfl⟩
  | cons act acts ih =>
    have hperform : (t.perform act).timeout = t.timeout ∧
        (t.perform act).maxRoutes = t.maxRoutes := by
      cases act with
      | update destination nextHop hopCount rssi now => exact t.setup_update _ _ _ _ _
      | remove destination => exact ⟨rfl, rfl⟩
      | expire now => exact ⟨rfl, rfl⟩
      | restore routes now => exact t.setup_restore routes now
    have hrest := ih (t.perform act)
    exact ⟨hrest.1.trans hperform.1, hrest.2.trans hperform.2⟩

theorem timeout_run (t : RouteTable) (acts : List Act) : (t.run acts).timeout = t.timeout :=
  (t.setup_run acts).1

/-! ## A frame along the recorded way -/

theorem update_again (hlookup : t.lookup destination = some e)
    (hrecent : now - e.lastSeen ≤ t.timeout) (rssi : Int16) :
    t.update destination e.nextHop e.hopCount rssi now =
      if e.rssi.toInt < rssi.toInt ∨ (e.rssi = rssi ∧ e.lastSeen < now) then
        (.replaced, t.put { e with rssi := rssi, lastSeen := now })
      else (.kept, t) := by
  obtain ⟨_, rfl⟩ := mem_of_lookup hlookup
  have hexpired : e.isExpired now t.timeout = false := decide_eq_false (Nat.not_lt_of_le hrecent)
  have hbetter : Route.isBetterThan ⟨e.destination, e.nextHop, e.hopCount, rssi, now⟩ e =
      decide (e.rssi.toInt < rssi.toInt ∨ (e.rssi = rssi ∧ e.lastSeen < now)) := by
    rw [Bool.eq_iff_iff]
    simp [Route.isBetterThan]
  unfold update
  simp only
  rw [hlookup]
  simp only
  rw [hexpired, hbetter]
  simp only [Bool.false_or, decide_eq_true_eq]

/-- Heard at least as loud as before, a route to a node stays for as long as routes do. -/
theorem lookup_expire_update_loud (hlookup : t.lookup destination = some e)
    (hrecent : now - e.lastSeen ≤ t.timeout) (hloud : e.rssi.toInt ≤ rssi.toInt)
    (huntil : later ≤ now + t.timeout) :
    ∃ r, ((t.update destination e.nextHop e.hopCount rssi now).2.expire later).2.lookup
        destination = some r ∧ r.nextHop = e.nextHop ∧ r.hopCount = e.hopCount := by
  obtain ⟨_, rfl⟩ := mem_of_lookup hlookup
  rw [update_again hlookup hrecent]
  split
  · refine ⟨{ e with rssi := rssi, lastSeen := now }, lookup_expire ?_ ?_, rfl, rfl⟩
    · exact lookup_put_self t { e with rssi := rssi, lastSeen := now }
    · change later - now ≤ t.timeout
      omega
  · -- Neither louder nor heard later: the time that is kept is no earlier than this one.
    rename_i hkept
    obtain ⟨hquiet, hearlier⟩ := not_or.mp hkept
    have hsame : e.rssi = rssi := Int16.toInt_inj.mp (by omega)
    have hseen : now ≤ e.lastSeen := Nat.not_lt.mp fun h => hearlier ⟨hsame, h⟩
    have hkept : later - e.lastSeen ≤ t.timeout := by omega
    exact ⟨e, lookup_expire hlookup hkept, rfl, rfl⟩

theorem update_quiet (hlookup : t.lookup destination = some e)
    (hrecent : now - e.lastSeen ≤ t.timeout) (hquiet : rssi.toInt < e.rssi.toInt) :
    t.update destination e.nextHop e.hopCount rssi now = (.kept, t) := by
  rw [update_again hlookup hrecent, if_neg]
  rintro (hloud | ⟨rfl, _⟩)
  · omega
  · omega

/-- In whatever way a table came by a route that has not expired: when another frame comes
along it and is heard at least as loud, the table leads there through the same node until
the timeout after that frame is over. A frame that is heard less loud changes nothing, and
the route goes when the timeout after the time it is kept with is over. -/
theorem expire_after_hearing (acts : List Act)
    (hlookup : ((create timeout maxRoutes).run acts).lookup destination = some e)
    (hrecent : e.isExpired now timeout = false) (huntil : later ≤ now + timeout) (rssi : Int16) :
    let table := (create timeout maxRoutes).run acts
    let heard := table.update destination e.nextHop e.hopCount rssi now
    (e.rssi.toInt ≤ rssi.toInt → ∃ r, (heard.2.expire later).2.lookup destination = some r ∧
        r.nextHop = e.nextHop ∧ r.hopCount = e.hopCount) ∧
      (rssi.toInt < e.rssi.toInt → heard = (.kept, table) ∧
        (heard.2.expire later).2.lookup destination =
          if later - e.lastSeen ≤ timeout then some e else none) := by
  intro table heard
  have htimeout : table.timeout = timeout := timeout_run _ acts
  have hsorted : table.IsSorted := ((isOrderly_create timeout maxRoutes).run acts).sorted
  have hwithin : now - e.lastSeen ≤ table.timeout := by
    rw [htimeout]
    exact Nat.not_lt.mp (of_decide_eq_false hrecent)
  refine ⟨fun hloud => ?_, fun hquiet => ?_⟩
  · exact lookup_expire_update_loud hlookup hwithin hloud (htimeout ▸ huntil)
  · have hheard : heard = (.kept, table) := update_quiet hlookup hwithin hquiet
    refine ⟨hheard, ?_⟩
    rw [hheard]
    split
    · exact lookup_expire hlookup (htimeout ▸ ‹_›)
    · exact hsorted.lookup_expire_old hlookup (htimeout ▸ Nat.not_le.mp ‹_›)

/-- A route of one hop, heard at -60 and then at -60 again. -/
theorem expire_after_hearing_steady :
    let table := (create 100 8).run [.update ⟨7⟩ ⟨7⟩ 1 (-60) 0]
    ∃ r, ((table.update ⟨7⟩ ⟨7⟩ 1 (-60) 80).2.expire 150).2.lookup ⟨7⟩ = some r ∧
      r.nextHop = ⟨7⟩ ∧ r.hopCount = 1 := by
  have hlookup : ((create 100 8).run [.update ⟨7⟩ ⟨7⟩ 1 (-60) 0]).lookup ⟨7⟩ =
    some ⟨⟨7⟩, ⟨7⟩, 1, -60, 0⟩ := rfl
  have hrecent : Route.isExpired ⟨⟨7⟩, ⟨7⟩, 1, -60, 0⟩ 80 100 = false := rfl
  have huntil : 150 ≤ 80 + 100 := by decide
  exact (expire_after_hearing _ hlookup hrecent huntil (-60)).1 (by decide)

/-- A neighbour that is heard all the time goes stale when its signal gets weaker. -/
theorem weaker_signal_goes_stale :
    let table := (create 100 8).run [.update ⟨7⟩ ⟨7⟩ 1 (-60) 0]
    let e : Route := ⟨⟨7⟩, ⟨7⟩, 1, -60, 0⟩
    (table.lookup ⟨7⟩ = some e ∧ e.isExpired 80 100 = false ∧ 80 ≤ 150 ∧ 150 ≤ 80 + 100) ∧
      ((table.update ⟨7⟩ e.nextHop e.hopCount (-70) 80).2.expire 150).2.lookup ⟨7⟩ = none := by
  decide

end RouteTable
end Meshwork
