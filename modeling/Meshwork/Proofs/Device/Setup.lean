import Meshwork.Proofs.Device.Workings

/-!
# What a device stays set up with

The configuration that a device was created with is valid, and what its router
takes from it stays through everything that is done with the device. The tracker
is the one of the configuration, whatever it has been asked since.
-/

namespace Meshwork
set_option autoImplicit false

/-- The limits that a valid configuration keeps. -/
structure Config.IsValid (c : Config) : Prop where
  named : c.nodeId.isReserved = false
  limits : ∀ limit ∈ c.limits, limit.2 ≠ 0

theorem Config.isValid_of_validate {c : Config} (h : c.validate = .ok ()) : c.IsValid := by
  unfold validate at h
  split at h
  · cases h
  · rename_i hnamed
    refine ⟨Bool.not_eq_true _ ▸ hnamed, ?_⟩
    intro limit hlimit hzero
    split at h
    · cases h
    · rename_i hnone
      have hpositive := List.find?_eq_none.mp hnone limit hlimit
      rw [hzero] at hpositive
      exact hpositive rfl

theorem Config.IsValid.dedupWindow {c : Config} (h : c.IsValid) : 1 ≤ c.dedupWindow.toNat := by
  have hpositive := h.limits ("dedup_window_ms", c.dedupWindow.toNat) (by simp [Config.limits])
  exact Nat.one_le_iff_ne_zero.mpr hpositive

namespace Router

/-- The router of a configuration, as far as it never changes. -/
structure FitsConfig (c : Config) (r : Router) : Prop where
  nodeId : r.nodeId = c.nodeId
  maxHops : r.maxHops = c.maxHops
  relayEnabled : r.relayEnabled = c.relayEnabled
  timeout : r.table.timeout = c.routeTimeout.toNat
  maxRoutes : r.table.maxRoutes = max c.maxRoutes.toNat 1
  tracker : ∃ events, r.tracker =
    (DuplicateTracker.create c.dedupWindow.toNat c.dedupCapacity.toNat).run events

variable {c : Config} {r r' : Router}

theorem fitsConfig_create (c : Config) : (create c).FitsConfig c :=
  ⟨rfl, rfl, rfl, rfl, rfl, [], rfl⟩

theorem FitsConfig.of_alike (h : r.FitsConfig c) (h' : r.Alike r') : r'.FitsConfig c := by
  obtain ⟨events, htracker⟩ := h.tracker
  obtain ⟨more, htracker'⟩ := h'.tracker
  refine ⟨h'.nodeId.trans h.nodeId, h'.maxHops.trans h.maxHops,
    h'.relayEnabled.trans h.relayEnabled, h'.timeout.trans h.timeout,
    h'.maxRoutes.trans h.maxRoutes, events ++ more, ?_⟩
  rw [htracker', htracker, DuplicateTracker.run_append]

theorem FitsConfig.window (h : r.FitsConfig c) : r.tracker.window = c.dedupWindow.toNat := by
  obtain ⟨events, htracker⟩ := h.tracker
  rw [htracker, DuplicateTracker.run_window]
  rfl

theorem FitsConfig.capacity (h : r.FitsConfig c) :
    r.tracker.capacity = max c.dedupCapacity.toNat 1 := by
  obtain ⟨events, htracker⟩ := h.tracker
  rw [htracker, DuplicateTracker.run_capacity]
  rfl

theorem FitsConfig.apart (h : r.FitsConfig c) (hvalid : c.IsValid) : r.tracker.IsApart := by
  obtain ⟨events, htracker⟩ := h.tracker
  rw [htracker]
  exact (DuplicateTracker.isApart_create _ _).run events hvalid.dedupWindow

/-- A new message that is recorded is remembered. -/
theorem FitsConfig.remembers (h : r.FitsConfig c) (hvalid : c.IsValid) {key : MessageKey}
    {now : Nat} (hnew : r.tracker.contains key now = false) :
    (r.tracker.record key now).Remembers key now [] := by
  refine DuplicateTracker.remembers_record ?_ ?_ (h.apart hvalid) hnew
  · rw [h.window]
    exact hvalid.dedupWindow
  · rw [h.capacity]
    exact Nat.le_max_right _ _

theorem stamps_restore (r : Router) (routes : List Route) (now : Nat) :
    r.Stamps now { r with table := r.table.restore routes now } := by
  have hsetup := r.table.setup_restore routes now
  exact ⟨⟨rfl, rfl, rfl, rfl, hsetup.1, hsetup.2, fun h => h.restore routes now, [], rfl⟩,
    fun _ => RouteTable.mem_of_mem_restore⟩

end Router

namespace Device

variable {d : Device} {config : Config} {now : UInt64} {draws : Draws}

/-! ## The router of a device -/

theorem stamps_init (d : Device) (now : UInt64) :
    d.router.Stamps now.toNat (d.init now).2.router := by
  have hmembership : ∀ (m : Device) (hasKey : Bool),
      (m.restoreMembership hasKey).2.router = m.router := by
    intro m hasKey
    unfold restoreMembership
    split
    · split <;> rfl
    · rfl
  have hroutes : ∀ m : Device, m.router.Stamps now.toNat (m.restoreRoutes now).2.router := by
    intro m
    unfold restoreRoutes
    split
    · exact Router.Stamps.refl _ _
    · exact Router.Stamps.refl _ _
    · split
      · exact Router.Stamps.refl _ _
      · exact m.router.stamps_restore _ _
  unfold init
  cases d.keys.load d.storage with
  | error e => exact Router.Stamps.refl _ _
  | ok loaded =>
    rcases loaded with ⟨hasKey, keys⟩
    have hrestored := hmembership { d with keys := keys } hasKey
    simp only
    generalize ({ d with keys := keys } : Device).restoreMembership hasKey = restored
      at hrestored ⊢
    rcases restored with ⟨result, m⟩
    cases result with
    | error e =>
      rw [hrestored]
      exact Router.Stamps.refl _ _
    | ok done =>
      have hrouter : m.router = d.router := hrestored
      rw [← hrouter]
      exact hroutes m

/-- The time that a deed is told, if any. -/
def Deed.time? : Deed → Option UInt64
  | operate operation => operation.time?
  | init now => some now
  | _ => none

/-- Whatever is done with a device, its router stays as it is set up, and hears of routes
at the time of the deed only; the application may have been registered in between. -/
theorem stamps_deed (d : Device) (deed : Deed) (draws : Draws) (now : UInt64) : ∃ listening,
    Router.Stamps (deed.time?.getD now).toNat { d.router with hasHandler := listening }
      (deed.perform (d, draws)).1.router := by
  cases deed with
  | operate operation => exact ⟨d.router.hasHandler, stamps_perform operation now⟩
  | init time => exact ⟨d.router.hasHandler, d.stamps_init time⟩
  | listen =>
    unfold Deed.perform listen Router.listen
    by_cases hlistening : d.router.hasHandler = true
    · simp only [if_pos hlistening]
      exact ⟨d.router.hasHandler, Router.Stamps.refl _ _⟩
    · simp only [if_neg hlistening]
      exact ⟨true, Router.Stamps.refl _ _⟩
  | listenInclusion =>
    refine ⟨d.router.hasHandler, ?_⟩
    unfold Deed.perform listenInclusion
    by_cases hlistening : d.hasInclusionHandler = true
    · simp only [if_pos hlistening]
      exact Router.Stamps.refl _ _
    · simp only [if_neg hlistening]
      exact Router.Stamps.refl _ _

/-! ## The configuration -/

theorem validate_of_create {radio : Radio} {storage : Storage} {provider : CryptoProvider}
    (h : create config radio storage provider = .ok d) : config.validate = .ok () := by
  unfold create at h
  split at h
  · cases h
  · assumption

theorem Reachable.validate (h : Reachable config d) : config.validate = .ok () := by
  induction h with
  | create radio storage provider hcreate => exact validate_of_create hcreate
  | deed deed draws h ih => exact ih

/-- A device that was created with a configuration has a valid one, and its router
is set up with it for good. -/
theorem Reachable.fitsConfig (h : Reachable config d) :
    config.IsValid ∧ d.router.FitsConfig config := by
  refine ⟨Config.isValid_of_validate h.validate, ?_⟩
  induction h with
  | create radio storage provider hcreate =>
    rw [eq_of_create hcreate]
    exact Router.fitsConfig_create config
  | @deed d deed draws h ih =>
    obtain ⟨listening, hstamps⟩ := d.stamps_deed deed draws 0
    have hlistening : ({ d.router with hasHandler := listening } : Router).FitsConfig config :=
      ⟨ih.nodeId, ih.maxHops, ih.relayEnabled, ih.timeout, ih.maxRoutes, ih.tracker⟩
    exact hlistening.of_alike hstamps.toAlike

theorem Reachable.orderly (h : Reachable config d) : d.router.table.IsOrderly := by
  induction h with
  | create radio storage provider hcreate =>
    rw [eq_of_create hcreate]
    exact RouteTable.isOrderly_create _ _
  | @deed d deed draws h ih =>
    obtain ⟨listening, hstamps⟩ := d.stamps_deed deed draws 0
    exact hstamps.order ih

end Device
end Meshwork
