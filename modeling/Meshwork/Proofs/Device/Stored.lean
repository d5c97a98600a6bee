import Meshwork.Proofs.Device.Reachable
import Meshwork.Proofs.Storage

/-!
# The key in storage

Whatever changes the key of a device stores it, on every way out: after a call, what
stands in storage under the name of the key is the key that is held, and nothing where
none is. A frame that brings a key leaves a result in the queue, and no call is over
before the queue is empty and what it tells is stored.
-/

namespace Meshwork
set_option autoImplicit false

namespace Device

variable {d m : Device} {config : Config} {now : UInt64} {draws : Draws}

/-! ## Storing a membership -/

/-- A storage that holds the membership of a device, and is otherwise the one of it. -/
structure Persisted (d : Device) (storage : Storage) : Prop where
  key : storage.get? Storage.meshKey = d.keys.key.map MeshKey.toBytes
  state : storage.get? Storage.inclusionState = some [d.inclusion.state.toByte]
  reads : storage.rejectedRead = d.storage.rejectedRead
  rejects : storage.rejectsWrite = d.storage.rejectsWrite

theorem persisted_of_ok (h : d.persistMembership = (.ok (), m)) :
    ∃ storage, m = { d with storage := storage } ∧ d.Persisted storage := by
  unfold persistMembership at h
  rcases hflush : d.keys.flush d.storage with ⟨flushed, storage⟩
  rw [hflush] at h
  cases flushed with
  | error e => cases h
  | ok done =>
    have hkey := KeyRing.sets_of_flush hflush
    simp only at h
    rcases hwrite : storage.write Storage.inclusionState [d.inclusion.state.toByte] with
      ⟨written, final⟩
    rw [hwrite] at h
    cases written with
    | error e => cases h
    | ok done =>
      have hstate := Storage.sets_of_write hwrite
      cases h
      exact ⟨final, rfl,
        { key := (hstate.other _ (by decide)).trans hkey.self
          state := hstate.self
          reads := hstate.reads.trans hkey.reads
          rejects := hstate.rejects.trans hkey.rejects }⟩

theorem persistMembership_of_accepts (h : d.storage.Accepts) :
    ∃ storage, d.persistMembership = (.ok (), { d with storage := storage }) ∧
      d.Persisted storage := by
  have hok : ∃ m, d.persistMembership = (.ok (), m) := by
    unfold persistMembership
    obtain ⟨storage, hflush⟩ := KeyRing.flush_of_accepts h d.keys
    rw [hflush]
    simp only
    obtain ⟨final, hwrite⟩ := Storage.write_of_accepts
      ((KeyRing.sets_of_flush hflush).accepts h) Storage.inclusionState
      [d.inclusion.state.toByte]
    rw [hwrite]
    exact ⟨_, rfl⟩
  obtain ⟨m, hm⟩ := hok
  obtain ⟨storage, hstorage, hpersisted⟩ := persisted_of_ok hm
  exact ⟨storage, hstorage ▸ hm, hpersisted⟩

theorem persistMembership_ok (h : d.storage.Accepts) :
    ∃ storage, d.persistMembership = (.ok (), { d with storage := storage }) ∧
      storage.Accepts := by
  obtain ⟨storage, hpersist, hpersisted⟩ := persistMembership_of_accepts h
  refine ⟨storage, hpersist, ?_⟩
  unfold Storage.Accepts
  rw [hpersisted.rejects]
  exact h

/-! ## The stored key -/

/-- Storage does not fail, and holds under the name of the key what the ring holds. -/
structure KeyStored (d : Device) : Prop where
  reliable : d.storage.Reliable
  key : d.storage.get? Storage.meshKey = d.keys.key.map MeshKey.toBytes

theorem KeyStored.of_eq (h : d.KeyStored) (hkeys : m.keys = d.keys)
    (hstorage : m.storage = d.storage) : m.KeyStored :=
  ⟨hstorage ▸ h.reliable, by rw [hstorage, hkeys]; exact h.key⟩

/-- Whatever key has come or gone, it is stored with the membership. -/
theorem keyStored_persist (h : d.storage.Reliable) : d.persistMembership.2.KeyStored := by
  obtain ⟨storage, hpersist, hpersisted⟩ := persistMembership_of_accepts h.accepts
  rw [hpersist]
  refine ⟨⟨?_, hpersisted.reads.trans h.reads⟩, hpersisted.key⟩
  intro n
  change storage.rejectsWrite n = false
  rw [hpersisted.rejects]
  exact h.accepts n

/-- A key that has come or gone is stored when the application is told of it. -/
theorem keyStored_emit (h : d.storage.Reliable) (htold : d.KeyStored ∨ d.inclusion.events ≠ []) :
    d.emitEvents.2.KeyStored := by
  by_cases hquiet : d.inclusion.events = []
  · rw [emitEvents_of_quiet hquiet]
    exact htold.elim id fun hevents => absurd hquiet hevents
  · unfold emitEvents
    split
    · rename_i heq
      exact absurd (congrArg Prod.fst heq) hquiet
    · exact keyStored_persist h

/-! ## Frames -/

theorem storage_heed (d : Device) (frame : Bytes) (now : UInt64) (draws : Draws) :
    (d.heed frame now draws).storage = d.storage := by
  unfold heed
  rcases d.router.screen frame d.radio.rssi now.toNat with ⟨result, router⟩
  cases result with
  | error reason => rfl
  | ok p =>
    simp only
    unfold handlePacket
    split
    · rcases heeded_handleInclusion { d with router := router } p now draws with
        hsame | ⟨_, _, _, _, _, _, hafter⟩
      · rw [hsame]
      · rw [hafter]
    · rfl

/-- A frame that brings a key leaves a result to be told. -/
theorem keys_heed_or_told (d : Device) (frame : Bytes) (now : UInt64) (draws : Draws) :
    (d.heed frame now draws).keys = d.keys ∨ (d.heed frame now draws).inclusion.events ≠ [] := by
  have hheeded := d.heeded frame now draws
  generalize d.heed frame now draws = m at hheeded ⊢
  cases hheeded with
  | routed hinclusion hkeys hrouter => exact Or.inl hkeys
  | handshake p result after hdecode hhandled hinclusion hkeys hrouter =>
    rw [hkeys, hinclusion]
    cases hhandled with
    | joined draws session bootstrap key keys result htopic haddressed hown hpeer hstep hbootstrap
        hopen hinstall =>
      exact Or.inr (List.append_ne_nil_of_right_ne_nil _ (List.cons_ne_nil _ _))
    | _ => exact Or.inl rfl

theorem keyStored_processFrame (frame : Bytes) (now : UInt64) (draws : Draws)
    (hquiet : d.inclusion.events = []) (h : d.KeyStored) :
    (d.processFrame frame now draws).2.1.KeyStored := by
  have hstorage := d.storage_heed frame now draws
  rw [processFrame_eq hquiet]
  apply keyStored_emit (hstorage ▸ h.reliable)
  rcases d.keys_heed_or_told frame now draws with hkeys | htold
  · exact Or.inl (h.of_eq hkeys hstorage)
  · exact Or.inr htold

theorem keyStored_poll (now : UInt64) (draws : Draws) (h : d.KeyStored) :
    (d.poll now draws).2.1.KeyStored := by
  have hexpired : (d.expire now).KeyStored := h.of_eq rfl rfl
  have hemitted := keyStored_emit hexpired.reliable (Or.inl hexpired)
  have hquiet := settled_emitEvents (d.expire now)
  have hpolled := d.polled now draws
  generalize d.poll now draws = result at hpolled ⊢
  cases hpolled with
  | failed e hnone => exact hemitted
  | silent radio hnone hreceive => exact hemitted.of_eq rfl rfl
  | heard m frame radio hm hsome hreceive =>
    subst hm
    exact keyStored_processFrame frame now draws hquiet (hemitted.of_eq rfl rfl)

/-! ## Other operations -/

theorem keyStored_send (destination : NodeId) (topic : Topic) (payload : Bytes) (now : UInt64)
    (draws : Draws) (h : d.KeyStored) :
    (d.send destination topic payload now draws).2.1.KeyStored := by
  unfold send
  split
  · exact h
  · split
    · exact h
    · split
      · exact h
      · exact h.of_eq rfl rfl

theorem keys_of_enable_error {s after : Party} {e : MeshError}
    (h : s.enable = (.error e, after)) : after.keys = s.keys := by
  unfold Party.enable at h
  split at h
  · cases h
    rfl
  · simp only at h
    split at h
    · cases h
    · split at h
      · cases h
        rfl
      · cases h

theorem keyStored_enable (draws : Draws) (h : d.KeyStored) :
    (d.enableInclusion draws).2.1.KeyStored := by
  unfold enableInclusion
  simp only [asParty]
  rcases henable : Party.enable { inclusion := d.inclusion, keys := d.keys, draws := draws } with
    ⟨result, after⟩
  cases result with
  | error e => exact h.of_eq (keys_of_enable_error henable) rfl
  | ok done =>
    exact keyStored_persist
      (d := { d with inclusion := after.inclusion, keys := after.keys }) h.reliable

theorem keyStored_provision (key : MeshKey) (h : d.KeyStored) :
    (d.provision key).2.KeyStored := by
  unfold provision
  split
  · exact h
  · exact keyStored_persist h.reliable

theorem keyStored_leave (now : UInt64) (draws : Draws) (h : d.KeyStored) :
    (d.leave now draws).2.1.KeyStored := by
  unfold leave
  split
  · exact h
  · split
    · exact h
    · have hsent := keyStored_send .broadcast .bye [] now draws h
      unfold broadcast
      generalize d.send .broadcast .bye [] now draws = sent at hsent ⊢
      rcases sent with ⟨result, after, drawn⟩
      exact keyStored_persist (d := after.forget) hsent.reliable

theorem keyStored_shutdown (h : d.KeyStored) : d.shutdown.2.KeyStored := by
  have hpersist := keyStored_persist h.reliable
  unfold shutdown
  generalize d.persistMembership = persisted at hpersist ⊢
  rcases persisted with ⟨result, m⟩
  change m.KeyStored at hpersist
  cases result with
  | error e => exact hpersist
  | ok done =>
    simp only
    obtain ⟨storage, hwrite⟩ := Storage.write_of_accepts hpersist.reliable.accepts Storage.routes
      m.router.table.snapshot
    have hsets := Storage.sets_of_write hwrite
    rw [hwrite]
    exact ⟨hsets.reliable hpersist.reliable, (hsets.other _ (by decide)).trans hpersist.key⟩

theorem keyStored_requestInclusion (now : UInt64) (draws : Draws) (h : d.KeyStored) :
    (d.requestInclusion now draws).2.1.KeyStored := by
  obtain ⟨result, after, router, radio, hrequested, _, hafter⟩ :=
    d.requestInclusion_cases now draws
  rw [hafter]
  exact h.of_eq hrequested.keys rfl

/-! ## Coming up -/

/-- The handshakes of a device that comes up with or without a key. -/
def remembered (d : Device) (hasKey : Bool) : Inclusion :=
  if d.config.role = .standard then
    d.inclusion.restore (if hasKey then .included else .notIncluded)
  else d.inclusion

/-- The routes of a device that comes up: those in storage that can be read. -/
def recalled (d : Device) (now : UInt64) : RouteTable :=
  match (d.storage.get? Storage.routes).bind RouteTable.parseSnapshot? with
  | some routes => d.router.table.restore routes now.toNat
  | none => d.router.table

theorem restoreMembership_eq (hreads : d.storage.rejectedRead = none) (hasKey : Bool) :
    d.restoreMembership hasKey = (.ok (), { d with inclusion := d.remembered hasKey }) := by
  unfold restoreMembership remembered
  split
  · rw [Storage.readOptional_eq (by rw [hreads]; exact nofun)]
  · rfl

theorem restoreRoutes_eq (hreads : d.storage.rejectedRead = none) (now : UInt64) :
    d.restoreRoutes now = (.ok (), { d with router.table := d.recalled now }) := by
  unfold restoreRoutes recalled
  rw [Storage.readOptional_eq (by rw [hreads]; exact nofun)]
  cases d.storage.get? Storage.routes with
  | none => rfl
  | some text =>
    simp only [Option.bind_some]
    cases RouteTable.parseSnapshot? text with
    | none => rfl
    | some routes => rfl

/-- A device comes up with the key that is stored. -/
theorem init_eq {key : Option MeshKey} (hreads : d.storage.rejectedRead = none)
    (hheld : d.keys.key = none ∨ d.keys.key = key)
    (hstored : d.storage.get? Storage.meshKey = key.map MeshKey.toBytes) (now : UInt64) :
    d.init now = (.ok (),
      { d with
        keys := { d.keys with key := key }
        inclusion := d.remembered key.isSome
        router.table := d.recalled now }) := by
  unfold init
  rw [KeyRing.load_of_get hheld (by rw [hreads]; exact nofun) hstored]
  simp only
  rw [restoreMembership_eq (d := { d with keys := { d.keys with key := key } }) hreads]
  simp only
  exact restoreRoutes_eq (d := { d with
    keys := { d.keys with key := key }
    inclusion := d.remembered key.isSome }) hreads now

theorem keyStored_init_again (now : UInt64) (h : d.KeyStored) : (d.init now).2.KeyStored := by
  rw [init_eq h.reliable.reads (Or.inr rfl) h.key]
  exact ⟨h.reliable, h.key⟩

/-- A device that has come up for the first time holds the key that was stored. -/
theorem keyStored_init (hnone : d.keys.key = none) (hreliable : d.storage.Reliable)
    (hinit : d.init now = (.ok (), m)) : m.KeyStored := by
  cases hload : d.keys.load d.storage with
  | error e =>
    unfold init at hinit
    rw [hload] at hinit
    cases hinit
  | ok loaded =>
    have hkey := KeyRing.get_of_load hnone hload
    rw [init_eq hreliable.reads (Or.inl hnone) hkey] at hinit
    cases hinit
    exact ⟨hreliable, hkey⟩

/-! ## Lives -/

/-- Everything but another storage in the place of the device's own. -/
def Deed.sparesStorage : Deed → Bool
  | operate (.surround _ _) => false
  | _ => true

/-- The states of a device that has come up on a storage that does not fail and that
nobody else writes to. Its radio may fail, recover and receive at any time. -/
inductive Lives (config : Config) : Device → Prop where
  | up {created d : Device} (radio : Radio) (storage : Storage) (provider : CryptoProvider)
      (now : UInt64) (hreliable : storage.Reliable)
      (hcreate : create config radio storage provider = .ok created)
      (hinit : created.init now = (.ok (), d)) : Lives config d
  | deed {d : Device} (deed : Deed) (draws : Draws) (hspares : deed.sparesStorage = true) :
      Lives config d → Lives config (deed.perform (d, draws)).1
  | air {d : Device} (radio : Radio) : Lives config d → Lives config { d with radio := radio }

theorem keyStored_operate {operation : Operation} (draws : Draws)
    (hspares : (Deed.operate operation).sparesStorage = true) (hquiet : d.inclusion.events = [])
    (h : d.KeyStored) : (operation.perform (d, draws)).1.KeyStored := by
  cases operation with
  | poll now => exact keyStored_poll now draws h
  | processFrame frame now => exact keyStored_processFrame frame now draws hquiet h
  | send destination topic payload now =>
    exact keyStored_send destination topic payload now draws h
  | requestInclusion now => exact keyStored_requestInclusion now draws h
  | enableInclusion => exact keyStored_enable draws h
  | disableInclusion => exact h.of_eq rfl rfl
  | provision key => exact keyStored_provision key h
  | leave now => exact keyStored_leave now draws h
  | shutdown => exact keyStored_shutdown h
  | surround radio storage => cases hspares

theorem keyStored_deed {deed : Deed} (draws : Draws) (hspares : deed.sparesStorage = true)
    (hquiet : d.inclusion.events = []) (h : d.KeyStored) :
    (deed.perform (d, draws)).1.KeyStored := by
  cases deed with
  | operate operation => exact keyStored_operate draws hspares hquiet h
  | init now => exact keyStored_init_again now h
  | listen =>
    unfold Deed.perform listen
    cases d.router.listen with
    | error e => exact h
    | ok router => exact h.of_eq rfl rfl
  | listenInclusion =>
    unfold Deed.perform listenInclusion
    by_cases hhandler : d.hasInclusionHandler = true
    · rw [if_pos hhandler]
      exact h
    · rw [if_neg hhandler]
      exact h.of_eq rfl rfl

theorem Lives.reachable (h : Lives config d) : Reachable config d := by
  induction h with
  | up radio storage provider now hreliable hcreate hinit =>
    have hup := Reachable.deed (.init now) { source := fun _ _ => [] }
      (.create radio storage provider hcreate)
    change Reachable config (Device.init _ now).2 at hup
    rw [hinit] at hup
    exact hup
  | deed deed draws hspares hbefore ih => exact .deed deed draws ih
  | @air d radio hbefore ih =>
    exact .deed (.operate (.surround radio d.storage)) { source := fun _ _ => [] } ih

theorem Lives.keyStored (h : Lives config d) : d.KeyStored := by
  induction h with
  | up radio storage provider now hreliable hcreate hinit =>
    obtain rfl := eq_of_create hcreate
    exact keyStored_init rfl hreliable hinit
  | deed deed draws hspares hbefore ih =>
    exact keyStored_deed draws hspares hbefore.reachable.settled ih
  | air radio hbefore ih => exact ih.of_eq rfl rfl

/-- After every call, whether it has failed or not, storage holds under the name of the
key exactly the key that the device holds, and nothing if it holds none. Whatever device
comes up on that storage, then or later, holds the same. -/
theorem stored_key_is_held (h : Lives config d) :
    d.storage.get? Storage.meshKey = d.keys.key.map MeshKey.toBytes ∧
      ∀ (config' : Config) (radio : Radio) (provider : CryptoProvider) (fresh : Device)
        (now : UInt64), create config' radio d.storage provider = .ok fresh →
          ∃ m, fresh.init now = (.ok (), m) ∧ m.keys.key = d.keys.key := by
  have hstored := h.keyStored
  refine ⟨hstored.key, ?_⟩
  intro config' radio provider fresh now hcreate
  have hfresh := eq_of_create hcreate
  have hreads : fresh.storage.rejectedRead = none := by
    rw [hfresh]
    exact hstored.reliable.reads
  have hkey : fresh.storage.get? Storage.meshKey = d.keys.key.map MeshKey.toBytes := by
    rw [hfresh]
    exact hstored.key
  exact ⟨_, init_eq hreads (Or.inl (by rw [hfresh])) hkey now, rfl⟩

/-! ## A hub with a new key -/

def storedConfig : Config := .hub ⟨9⟩

def storedDraws : Draws := { source := fun _ _ => [5] }

/-- A hub that has come up on an empty storage. -/
def storedStart : Device where
  config := storedConfig
  radio := {}
  storage := {}
  router := .create storedConfig
  inclusion := .create storedConfig
  keys := { provider := .software }

/-- The hub when it takes requests. -/
def storedHub : Device := (Deed.perform (storedStart, storedDraws) (.operate .enableInclusion)).1

theorem storedHub_lives : Lives storedConfig storedHub :=
  .deed (.operate .enableInclusion) storedDraws rfl
    (.up {} {} .software 0 ⟨fun _ => rfl, rfl⟩ rfl rfl)

theorem stored_key_is_held_hub :
    Lives storedConfig storedHub ∧ storedHub.keys.hasKey = true ∧
      storedHub.storage.get? Storage.meshKey = storedHub.keys.key.map MeshKey.toBytes ∧
      ∃ m, storedStart.init 7 = (.ok (), m) ∧ m.keys.key = none := by
  have hstart : Lives storedConfig storedStart := .up {} {} .software 0 ⟨fun _ => rfl, rfl⟩ rfl rfl
  obtain ⟨hkey, _⟩ := stored_key_is_held storedHub_lives
  obtain ⟨_, hfresh⟩ := stored_key_is_held hstart
  exact ⟨storedHub_lives, by decide +kernel, hkey,
    hfresh storedConfig {} .software storedStart 7 rfl⟩

end Device
end Meshwork
