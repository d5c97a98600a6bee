import Meshwork.Proofs.Device.Setup
import Meshwork.Proofs.Device.Stored
import Meshwork.Proofs.Route.Snapshot

/-!
# Restarts

What a shutdown leaves in storage is what a device comes up with: the same key, the
membership that goes with it, and the same routes. No configuration changes in
between, so the table has room for all of them.
-/

namespace Meshwork
set_option autoImplicit false

namespace Device

variable {d m : Device} {config : Config}

/-! ## Shutting down -/

/-- A storage that holds the membership and the routes of a device. -/
structure Saved (d : Device) (storage : Storage) : Prop extends Persisted d storage where
  routes : storage.get? Storage.routes = some d.router.table.snapshot

theorem saved_of_shutdown (h : d.shutdown = (.ok (), m)) : d.Saved m.storage := by
  unfold shutdown at h
  rcases hpersist : d.persistMembership with ⟨result, persisted⟩
  rw [hpersist] at h
  cases result with
  | error e => cases h
  | ok done =>
    obtain ⟨storage, rfl, hpersisted⟩ := persisted_of_ok hpersist
    simp only at h
    rcases hwrite : storage.write Storage.routes d.router.table.snapshot with ⟨written, final⟩
    rw [hwrite] at h
    cases written with
    | error e => cases h
    | ok done =>
      have hsets := Storage.sets_of_write hwrite
      cases h
      exact
        { key := (hsets.other _ (by decide)).trans hpersisted.key
          state := (hsets.other _ (by decide)).trans hpersisted.state
          reads := hsets.reads.trans hpersisted.reads
          rejects := hsets.rejects.trans hpersisted.rejects
          routes := hsets.self }

/-! ## Coming up again -/

/-- The membership that a device comes up with is that of its key, but for a hub,
which is always a member. -/
theorem state_remembered {fresh : Device} {radio : Radio} {storage : Storage}
    {provider : CryptoProvider} (h : create config radio storage provider = .ok fresh)
    (hasKey : Bool) :
    (fresh.remembered hasKey).state =
      if config.role = .hub ∨ hasKey = true then .included else .notIncluded := by
  rw [eq_of_create h]
  unfold remembered
  simp only
  cases hrole : config.role with
  | hub =>
    rw [if_neg (by decide), if_pos (Or.inl rfl)]
    exact congrArg Inclusion.initialState hrole
  | standard =>
    have hself : (Inclusion.create config).role = .standard := hrole
    unfold Inclusion.restore
    rw [if_pos rfl, if_pos hself]
    cases hasKey with
    | false => rfl
    | true => rfl

/-- A new device of the same configuration takes up all routes of the old one. -/
theorem routes_recalled {fresh : Device} (h : Reachable config d) {radio : Radio}
    {storage : Storage} {provider : CryptoProvider}
    (hcreate : create config radio storage provider = .ok fresh)
    (hstored : storage.get? Storage.routes = some d.router.table.snapshot) (now : UInt64) :
    (fresh.recalled now).routes = d.router.table.routes.map (Route.heardAt now.toNat) := by
  have hempty : (Router.create config).table.routes = [] := rfl
  have hroom : (Router.create config).table.maxRoutes = d.router.table.maxRoutes :=
    h.fitsConfig.2.maxRoutes.symm
  obtain ⟨routes, hparse, hrestore⟩ :=
    RouteTable.routes_restore_snapshot h.orderly hempty hroom now.toNat
  rw [eq_of_create hcreate]
  unfold recalled
  simp only
  rw [hstored, Option.bind_some, hparse]
  exact hrestore

/-- Once a device has shut down, a new one with its configuration, on a storage that
returns what was left, comes up with the same key and the same routes, all of them heard
just now, and is a member if it is a hub or holds a key. -/
theorem restart_restores (h : Reachable config d) (hshutdown : d.shutdown = (.ok (), m))
    {storage : Storage} (hreturns : storage.Returns m.storage) (radio : Radio)
    (provider : CryptoProvider) (now : UInt64) :
    ∃ fresh up, create config radio storage provider = .ok fresh ∧
      fresh.init now = (.ok (), up) ∧
      up.keys.key = d.keys.key ∧
      up.state = (if config.role = .hub ∨ d.keys.hasKey = true then .included
        else .notIncluded) ∧
      up.router.table.routes = d.router.table.routes.map (Route.heardAt now.toNat) := by
  have hsaved := saved_of_shutdown hshutdown
  obtain ⟨fresh, hcreate⟩ : ∃ fresh, create config radio storage provider = .ok fresh :=
    ⟨_, create_of_validate h.validate radio storage provider⟩
  have hfresh := eq_of_create hcreate
  have hreads : fresh.storage.rejectedRead = none := by
    rw [hfresh]
    exact hreturns.reads
  have hkey : fresh.storage.get? Storage.meshKey = d.keys.key.map MeshKey.toBytes := by
    rw [hfresh]
    exact (hreturns.get _).trans hsaved.key
  have hinit := init_eq hreads (Or.inl (by rw [hfresh])) hkey now
  exact ⟨fresh, _, hcreate, hinit, rfl, state_remembered hcreate _,
    routes_recalled h hcreate ((hreturns.get _).trans hsaved.routes) now⟩

/-! ## A member with two routes -/

def restartKey : MeshKey := ⟨⟨List.replicate 32 0x5a, by decide⟩⟩

/-- Two routes by one neighbour, in storage. -/
def restartStorage : Storage :=
  let table := RouteTable.create 300000 16
  let table := { table with
    routes := [{ destination := ⟨3⟩, nextHop := ⟨3⟩, hopCount := 1, rssi := -40, lastSeen := 0 },
      { destination := ⟨7⟩, nextHop := ⟨3⟩, hopCount := 2, rssi := -90, lastSeen := 0 }] }
  { entries := [(Storage.routes, table.snapshot)] }

/-- A device that came up with the two routes, and was then given the key. -/
def restartMember : Device :=
  let start : Device :=
    { config := .standard ⟨5⟩
      radio := {}
      storage := restartStorage
      router := .create (.standard ⟨5⟩)
      inclusion := .create (.standard ⟨5⟩)
      keys := { provider := .software } }
  (start.init 100).2.provision restartKey |>.2

theorem restart_restores_member :
    Reachable (.standard ⟨5⟩) restartMember ∧ restartMember.shutdown.1 = .ok () ∧
      restartMember.router.table.routes.length = 2 ∧
      ∃ fresh up, create (.standard ⟨5⟩) {} restartMember.shutdown.2.storage .software = .ok fresh ∧
        fresh.init 900 = (.ok (), up) ∧ up.keys.key = some restartKey ∧ up.state = .included ∧
        up.router.table.routes = restartMember.router.table.routes.map (Route.heardAt 900) := by
  have hreachable : Reachable (.standard ⟨5⟩) restartMember :=
    .deed (.operate (.provision restartKey)) { source := fun _ _ => [] }
      (.deed (.init 100) { source := fun _ _ => [] }
        (.create {} restartStorage .software rfl))
  have hok : restartMember.shutdown.1 = .ok () := by decide +kernel
  have hroutes : restartMember.router.table.routes.length = 2 := by decide +kernel
  have hreturns : restartMember.shutdown.2.storage.Returns restartMember.shutdown.2.storage :=
    Storage.returns_self (by decide +kernel)
  obtain ⟨fresh, up, hcreate, hinit, hkey, hstate, hrestored⟩ :=
    restart_restores hreachable (Prod.ext hok rfl) hreturns {} .software 900
  have hheld : restartMember.keys.key = some restartKey := by decide +kernel
  exact ⟨hreachable, hok, hroutes, fresh, up, hcreate, hinit, hkey.trans hheld,
    hstate.trans (if_pos (Or.inr (congrArg Option.isSome hheld))), hrestored⟩

end Device
end Meshwork
