import Meshwork.Proofs.Device.Restart

/-!
# Storage that was left half written

Key, membership and routes are stored one after the other, and any of these writes may be
rejected, or never come to be made. What can not happen is that anything but a key stands
under the name of the key, and nothing else is relied on by a device that comes up.
-/

namespace Meshwork
set_option autoImplicit false

namespace Storage

variable {s s' s'' : Storage} {name : String} {value : Bytes}

/-! ## What a device does to a storage -/

/-- A storage after any number of writes and removals as a device makes them, some of which
were rejected. -/
inductive Touched (s : Storage) : Storage → Prop where
  | refl : Touched s s
  | key {s' : Storage} (h : Touched s s') (key : MeshKey) :
      Touched s (s'.write meshKey key.toBytes).2
  | forget {s' : Storage} (h : Touched s s') : Touched s (s'.remove meshKey)
  | state {s' : Storage} (h : Touched s s') (state : Membership) :
      Touched s (s'.write inclusionState [state.toByte]).2
  | routes {s' : Storage} (h : Touched s s') (table : RouteTable) :
      Touched s (s'.write routes table.snapshot).2

theorem Touched.trans (h : s.Touched s') (h' : s'.Touched s'') : s.Touched s'' := by
  induction h' with
  | refl => exact h
  | key _ key ih => exact ih.key key
  | forget _ ih => exact ih.forget
  | state _ state ih => exact ih.state state
  | routes _ table ih => exact ih.routes table

/-- Reads work, and there is a key under the name of the key, or nothing. -/
structure Loadable (s : Storage) : Prop where
  reads : s.rejectedRead = none
  key : ∃ key : Option MeshKey, s.get? meshKey = key.map MeshKey.toBytes

theorem Loadable.write (h : s.Loadable)
    (hvalue : name = meshKey → ∃ key : MeshKey, value = key.toBytes) :
    (s.write name value).2.Loadable := by
  rcases hwrite : s.write name value with ⟨result, after⟩
  cases result with
  | error e =>
    unfold Storage.write at hwrite
    simp only at hwrite
    split at hwrite
    · cases hwrite
      exact ⟨h.reads, h.key⟩
    · cases hwrite
  | ok done =>
    have hsets := sets_of_write hwrite
    refine ⟨hsets.reads.trans h.reads, ?_⟩
    by_cases hname : name = meshKey
    · obtain ⟨key, rfl⟩ := hvalue hname
      exact ⟨some key, hname ▸ hsets.self⟩
    · obtain ⟨key, hkey⟩ := h.key
      exact ⟨key, (hsets.other meshKey (Ne.symm hname)).trans hkey⟩

theorem Loadable.touched (h : s.Loadable) (htouched : s.Touched s') : s'.Loadable := by
  induction htouched with
  | refl => exact h
  | key _ key ih => exact ih.write fun _ => ⟨key, rfl⟩
  | @forget s' _ ih =>
    have hsets := s'.sets_remove meshKey
    exact ⟨hsets.reads.trans ih.reads, none, hsets.self⟩
  | state _ state ih => exact ih.write fun h => absurd h (by decide)
  | routes _ table ih => exact ih.write fun h => absurd h (by decide)

end Storage

namespace Device

variable {d m : Device} {config : Config} {now : UInt64} {draws : Draws}

theorem touched_of_eq (h : m.storage = d.storage) : d.storage.Touched m.storage :=
  h ▸ .refl

theorem touched_flush (k : KeyRing) (s : Storage) : s.Touched (k.flush s).2 := by
  unfold KeyRing.flush
  cases k.key with
  | none => exact Storage.Touched.refl.forget
  | some key =>
    have hwrite := Storage.Touched.refl (s := s) |>.key key
    simp only
    generalize s.write Storage.meshKey key.toBytes = written at hwrite ⊢
    rcases written with ⟨result, after⟩
    cases result with
    | error e => exact hwrite
    | ok done => exact hwrite

theorem touched_persistMembership (d : Device) :
    d.storage.Touched d.persistMembership.2.storage := by
  have hflush := touched_flush d.keys d.storage
  unfold persistMembership
  generalize d.keys.flush d.storage = flushed at hflush ⊢
  rcases flushed with ⟨result, storage⟩
  cases result with
  | error e => exact hflush
  | ok done =>
    have hwrite := Storage.Touched.state hflush d.inclusion.state
    simp only at hwrite ⊢
    generalize storage.write Storage.inclusionState [d.inclusion.state.toByte] = written
      at hwrite ⊢
    rcases written with ⟨result, after⟩
    cases result with
    | error e => exact hwrite
    | ok done => exact hwrite

theorem touched_persist (h : m.storage = d.storage) :
    d.storage.Touched m.persistMembership.2.storage :=
  h ▸ m.touched_persistMembership

theorem touched_emitEvents (d : Device) : d.storage.Touched d.emitEvents.2.storage := by
  unfold emitEvents
  split
  · exact .refl
  · exact touched_persist rfl

theorem touched_processFrame (d : Device) (frame : Bytes) (now : UInt64) (draws : Draws) :
    d.storage.Touched (d.processFrame frame now draws).2.1.storage := by
  have hheed := d.storage_heed frame now draws
  rcases d.processFrame_cases frame now draws with h | ⟨h, _⟩
  · rw [h, ← hheed]
    exact touched_emitEvents _
  · rw [h]
    exact touched_of_eq hheed

theorem touched_poll (d : Device) (now : UInt64) (draws : Draws) :
    d.storage.Touched (d.poll now draws).2.1.storage := by
  have hemitted := touched_emitEvents (d.expire now)
  change d.storage.Touched _ at hemitted
  have hpolled := d.polled now draws
  generalize d.poll now draws = result at hpolled ⊢
  cases hpolled with
  | failed e hnone => exact hemitted
  | silent radio hnone hreceive => exact hemitted
  | heard m frame radio hm hsome hreceive =>
    have hstorage : (d.expire now).emitEvents.2.storage = m.storage := by rw [hm]
    rw [hstorage] at hemitted
    exact hemitted.trans (m.touched_processFrame frame now draws)

theorem storage_send (d : Device) (destination : NodeId) (topic : Topic) (payload : Bytes)
    (now : UInt64) (draws : Draws) :
    (d.send destination topic payload now draws).2.1.storage = d.storage := by
  unfold send
  split
  · rfl
  split
  · rfl
  split
  · rfl
  · rfl

theorem touched_enableInclusion (d : Device) (draws : Draws) :
    d.storage.Touched (d.enableInclusion draws).2.1.storage := by
  unfold enableInclusion
  simp only [asParty]
  rcases Party.enable { inclusion := d.inclusion, keys := d.keys, draws := draws } with
    ⟨result, after⟩
  cases result with
  | error e => exact .refl
  | ok done =>
    exact touched_persist rfl

theorem touched_provision (d : Device) (key : MeshKey) :
    d.storage.Touched (d.provision key).2.storage := by
  unfold provision
  split
  · exact .refl
  · exact touched_persist rfl

theorem touched_leave (d : Device) (now : UInt64) (draws : Draws) :
    d.storage.Touched (d.leave now draws).2.1.storage := by
  unfold leave
  split
  · exact .refl
  split
  · exact .refl
  · have hsent := d.storage_send .broadcast .bye [] now draws
    unfold broadcast
    generalize d.send .broadcast .bye [] now draws = sent at hsent ⊢
    rcases sent with ⟨result, after, drawn⟩
    exact touched_persist (m := after.forget) hsent

theorem touched_shutdown (d : Device) : d.storage.Touched d.shutdown.2.storage := by
  have hpersist := d.touched_persistMembership
  unfold shutdown
  generalize d.persistMembership = persisted at hpersist ⊢
  rcases persisted with ⟨result, m⟩
  cases result with
  | error e => exact hpersist
  | ok done =>
    have hwrite := Storage.Touched.routes hpersist m.router.table
    simp only at hwrite ⊢
    generalize m.storage.write Storage.routes m.router.table.snapshot = written at hwrite ⊢
    rcases written with ⟨result, after⟩
    cases result with
    | error e => exact hwrite
    | ok done => exact hwrite

theorem touched_operate (d : Device) {operation : Operation} (draws : Draws)
    (hspares : (Deed.operate operation).sparesStorage = true) :
    d.storage.Touched (operation.perform (d, draws)).1.storage := by
  cases operation with
  | poll now => exact d.touched_poll now draws
  | processFrame frame now => exact d.touched_processFrame frame now draws
  | send destination topic payload now =>
    exact touched_of_eq (d.storage_send destination topic payload now draws)
  | requestInclusion now =>
    obtain ⟨_, _, _, _, _, _, hafter⟩ := d.requestInclusion_cases now draws
    refine touched_of_eq ?_
    change (d.requestInclusion now draws).2.1.storage = d.storage
    rw [hafter]
  | enableInclusion => exact d.touched_enableInclusion draws
  | disableInclusion => exact .refl
  | provision key => exact d.touched_provision key
  | leave now => exact d.touched_leave now draws
  | shutdown => exact d.touched_shutdown
  | surround radio storage => cases hspares

theorem touched_deed (d : Device) {deed : Deed} (draws : Draws)
    (hspares : deed.sparesStorage = true) :
    d.storage.Touched (deed.perform (d, draws)).1.storage := by
  cases deed with
  | operate operation => exact d.touched_operate draws hspares
  | init now =>
    obtain ⟨_, _, _, hafter⟩ := d.init_cases now
    refine touched_of_eq ?_
    change (d.init now).2.storage = d.storage
    rw [hafter]
  | listen =>
    unfold Deed.perform listen
    cases d.router.listen with
    | error e => exact .refl
    | ok router => exact .refl
  | listenInclusion =>
    unfold Deed.perform listenInclusion
    by_cases hhandler : d.hasInclusionHandler = true
    · rw [if_pos hhandler]
      exact .refl
    · rw [if_neg hhandler]
      exact .refl

/-! ## Devices on a storage that rejects writes -/

/-- The devices of one configuration that come about on a storage that was empty at first
and may reject any write. A device may be followed by a new one on the same storage. -/
inductive Weathers (config : Config) : Device → Prop where
  | first {d : Device} (radio : Radio) (rejects : Nat → Bool) (provider : CryptoProvider)
      (hcreate : create config radio { rejectsWrite := rejects } provider = .ok d) :
      Weathers config d
  | deed {d : Device} (deed : Deed) (draws : Draws) (hspares : deed.sparesStorage = true) :
      Weathers config d → Weathers config (deed.perform (d, draws)).1
  | air {d : Device} (radio : Radio) : Weathers config d → Weathers config { d with radio := radio }
  | again {d fresh : Device} (radio : Radio) (provider : CryptoProvider)
      (hcreate : create config radio d.storage provider = .ok fresh) :
      Weathers config d → Weathers config fresh

theorem Weathers.loadable (h : Weathers config d) : d.storage.Loadable := by
  induction h with
  | first radio rejects provider hcreate =>
    rw [eq_of_create hcreate]
    exact ⟨rfl, none, rfl⟩
  | deed deed draws hspares _ ih => exact ih.touched (touched_deed _ draws hspares)
  | air radio _ ih => exact ih
  | again radio provider hcreate _ ih =>
    rw [eq_of_create hcreate]
    exact ih

theorem Weathers.validate (h : Weathers config d) : config.validate = .ok () := by
  induction h with
  | first radio rejects provider hcreate => exact validate_of_create hcreate
  | deed deed draws hspares _ ih => exact ih
  | air radio _ ih => exact ih
  | again radio provider hcreate _ ih => exact ih

/-! ## Coming up -/

/-- The routes that a new device takes up fit in its table, whatever stood in storage. -/
theorem recalled_within {fresh : Device} {radio : Radio} {storage : Storage}
    {provider : CryptoProvider} (hcreate : create config radio storage provider = .ok fresh)
    (now : UInt64) :
    (fresh.recalled now).size ≤ config.maxRoutes.toNat ∧
      ∀ e ∈ (fresh.recalled now).routes, e.lastSeen = now.toNat := by
  have hroom : 1 ≤ config.maxRoutes.toNat :=
    Nat.one_le_iff_ne_zero.mpr ((Config.isValid_of_validate (validate_of_create hcreate)).limits
      ("max_routes", config.maxRoutes.toNat) (by simp [Config.limits]))
  have htable : fresh.router.table =
      .create config.routeTimeout.toNat config.maxRoutes.toNat := by
    rw [eq_of_create hcreate]
    rfl
  unfold recalled
  rw [htable]
  generalize hempty : RouteTable.create config.routeTimeout.toNat config.maxRoutes.toNat = empty
  have horderly : empty.IsOrderly := hempty ▸ RouteTable.isOrderly_create _ _
  have hmax : empty.maxRoutes = config.maxRoutes.toNat := by
    rw [← hempty]
    exact Nat.max_eq_left hroom
  have hnone : empty.routes = [] := by
    rw [← hempty]
    rfl
  cases (fresh.storage.get? Storage.routes).bind RouteTable.parseSnapshot? with
  | none =>
    refine ⟨?_, fun e he => ?_⟩
    · exact hmax ▸ horderly.size
    · rw [show empty.routes = [] from hnone] at he
      cases he
  | some routes =>
    refine ⟨?_, fun e he => ?_⟩
    · rw [← hmax, ← (empty.setup_restore routes now.toNat).2]
      exact (horderly.restore routes now.toNat).size
    · rcases RouteTable.mem_of_mem_restore he with hnow | hbefore
      · exact hnow
      · rw [hnone] at hbefore
        cases hbefore

/-- Whatever a standard device has been through on a storage that was empty at first and
rejects writes as it likes, a new one of its configuration comes up on what is stored. It has
the key that stands there, and is a member exactly if there is one, whatever stands there for
its membership and for its routes. Its table has room for its routes, all heard just now. -/
theorem comes_up_on_half_written (h : Weathers config d) (hrole : config.role = .standard)
    {storage : Storage} (hreads : storage.rejectedRead = none)
    (hkey : storage.get? Storage.meshKey = d.storage.get? Storage.meshKey) (radio : Radio)
    (provider : CryptoProvider) (now : UInt64) :
    ∃ fresh up, create config radio storage provider = .ok fresh ∧
      fresh.init now = (.ok (), up) ∧
      up.keys.key.map MeshKey.toBytes = storage.get? Storage.meshKey ∧
      up.keys.hasKey = storage.contains Storage.meshKey ∧
      (up.state = .included ↔ storage.contains Storage.meshKey = true) ∧
      up.router.table.size ≤ config.maxRoutes.toNat ∧
      ∀ e ∈ up.router.table.routes, e.lastSeen = now.toNat := by
  obtain ⟨key, hheld⟩ := h.loadable.key
  have hstored : storage.get? Storage.meshKey = key.map MeshKey.toBytes := hkey.trans hheld
  have hpresent : storage.contains Storage.meshKey = key.isSome := by
    unfold Storage.contains
    rw [hstored, Option.isSome_map]
  obtain ⟨fresh, hcreate⟩ : ∃ fresh, create config radio storage provider = .ok fresh :=
    ⟨_, create_of_validate h.validate radio storage provider⟩
  have hfresh := eq_of_create hcreate
  have hreads' : fresh.storage.rejectedRead = none := by
    rw [hfresh]
    exact hreads
  have hstored' : fresh.storage.get? Storage.meshKey = key.map MeshKey.toBytes := by
    rw [hfresh]
    exact hstored
  have hinit := init_eq hreads' (Or.inl (by rw [hfresh])) hstored' now
  refine ⟨fresh, _, hcreate, hinit, hstored.symm, hpresent.symm, ?_, recalled_within hcreate now⟩
  rw [hpresent]
  change (fresh.remembered key.isSome).state = _ ↔ _
  rw [state_remembered hcreate, hrole]
  cases key with
  | none => simp
  | some key => simp

/-! ## A membership that was not stored -/

/-- A device whose storage rejects its second write. -/
def tornStart : Device where
  config := .standard ⟨5⟩
  radio := {}
  storage := { rejectsWrite := fun n => n == 1 }
  router := .create (.standard ⟨5⟩)
  inclusion := .create (.standard ⟨5⟩)
  keys := { provider := .software }

/-- The device has been given a key, which is stored, but not that it is a member. -/
def tornMember : Device :=
  (Deed.perform (tornStart, { source := fun _ _ => [] }) (.operate (.provision restartKey))).1

/-- The same storage with a membership that is out of date, and routes that can not be
read. -/
def tornStorage : Storage :=
  { entries := tornMember.storage.entries ++
      [(Storage.inclusionState, [0]), (Storage.routes, [0x5b, 0xff])] }

theorem comes_up_on_half_written_torn :
    tornMember.storage.get? Storage.inclusionState = none ∧
      ∃ fresh up, create (.standard ⟨5⟩) {} tornStorage .software = .ok fresh ∧
        fresh.init 900 = (.ok (), up) ∧ up.keys.hasKey = true ∧ up.state = .included := by
  have hweathers : Weathers (.standard ⟨5⟩) tornMember :=
    .deed (.operate (.provision restartKey)) { source := fun _ _ => [] } rfl
      (.first {} (fun n => n == 1) .software rfl)
  have hpresent : tornStorage.contains Storage.meshKey = true := by decide +kernel
  have hsame : tornStorage.get? Storage.meshKey = tornMember.storage.get? Storage.meshKey := by
    decide +kernel
  obtain ⟨fresh, up, hcreate, hinit, _, hkey, hstate, _⟩ :=
    comes_up_on_half_written hweathers rfl (show tornStorage.rejectedRead = none from rfl) hsame {}
      .software 900
  exact ⟨by decide +kernel, fresh, up, hcreate, hinit, hkey.trans hpresent, hstate.mpr hpresent⟩

end Device
end Meshwork
