import Meshwork.Proofs.Device.Runs
import Meshwork.Proofs.Handshake.Fields

/-!
# Membership, key and handshake agree

A device is a member exactly while it holds a mesh key, and is waiting exactly
while a handshake of its own is under way. Every operation keeps that but one: a
key that is provisioned in the middle of a handshake leaves the handshake behind.
-/

namespace Meshwork
set_option autoImplicit false

/-- The membership is that of the key and of the handshake. -/
def Coherent (c : Inclusion) (k : KeyRing) : Prop :=
  (c.state = .included ↔ k.hasKey = true) ∧
    (c.state = .inclusionPending ↔ c.own.isSome = true)

namespace Coherent

variable {c : Inclusion} {k : KeyRing} {session : Session}

theorem of_included (hstate : c.state = .included) (hkey : k.hasKey = true)
    (hown : c.own = none) : Coherent c k := by
  unfold Coherent
  rw [hstate, hkey, hown]
  decide

theorem of_pending (hstate : c.state = .inclusionPending) (hkey : k.hasKey = false)
    (hown : c.own = some session) : Coherent c k := by
  unfold Coherent
  rw [hstate, hkey, hown, Option.isSome_some]
  decide

theorem of_notIncluded (hstate : c.state = .notIncluded) (hkey : k.hasKey = false)
    (hown : c.own = none) : Coherent c k := by
  unfold Coherent
  rw [hstate, hkey, hown]
  decide

theorem pending (h : Coherent c k) (hown : c.own = some session) :
    c.state = .inclusionPending :=
  h.2.mpr (by rw [hown]; rfl)

theorem keyless (h : Coherent c k) (hown : c.own = some session) : k.hasKey = false := by
  cases hkey : k.hasKey with
  | false => rfl
  | true =>
    have hincluded := h.1.mpr hkey
    rw [h.pending hown] at hincluded
    cases hincluded

theorem failOwn (h : Coherent c k) (reason : InclusionError) :
    Coherent (c.failOwn reason) k := by
  cases hown : c.own with
  | none =>
    unfold Inclusion.failOwn
    rw [hown]
    exact h
  | some session =>
    rw [Inclusion.failOwn_eq reason hown]
    exact of_notIncluded rfl (h.keyless hown) rfl

theorem keeps : Party.Keeps Coherent where
  handle {s s' p now result} hhandled h := by
    cases hhandled with
    | refused e draws => exact h
    | peerFailed e draws session hsession =>
      change Coherent (s.inclusion.failPeer p.source e) s.keys
      unfold Coherent
      rw [Inclusion.failPeer_state, Inclusion.failPeer_own]
      exact h
    | ownFailed e draws session hown hpeer => exact h.failOwn e
    | opened => exact h
    | confirmed => exact h
    | completed => exact h
    | answered draws session hubKey hubNonce bootstrap reply htopic haddressed hown =>
      exact of_pending (h.pending hown) (h.keyless hown) rfl
    | joined draws session bootstrap key keys result htopic haddressed hown hpeer hstep hbootstrap
        hopen hinstall =>
      rw [(KeyRing.eq_of_install hinstall).2]
      exact of_included rfl rfl rfl
  request {s s' now result} hrequested h := by
    cases hrequested with
    | refused e draws => exact h
    | asked draws session p hrole hstate hkey =>
      exact of_pending rfl hkey rfl
  expire {c k} now h := by
    obtain ⟨rest, _, hown, hstate, _, hcheck⟩ := c.checkTimeouts_cases now
    have hrest : Coherent rest k := by
      unfold Coherent
      rw [hstate, hown]
      exact h
    rcases hcheck with hcheck | ⟨session, _, _, hcheck⟩
    · rw [hcheck]
      exact hrest
    · rw [hcheck]
      exact hrest.failOwn .timeout
  drain h := h

end Coherent

def IsStandard (c : Inclusion) (_ : KeyRing) : Prop := c.role = .standard

theorem IsStandard.keeps : Party.Keeps IsStandard where
  handle hhandled h := (congrArg Inclusion.Setup.role hhandled.setup).trans h
  request hrequested h := (congrArg Inclusion.Setup.role hrequested.setup).trans h
  expire {c _} now h := (congrArg Inclusion.Setup.role (c.checkTimeouts_setup now)).trans h
  drain h := h

namespace Device

variable {d : Device}

theorem standard_provision (key : MeshKey) (h : d.Holds IsStandard) :
    (d.provision key).2.Holds IsStandard := by
  rcases d.provision_cases key with ⟨_, hsame⟩ | ⟨_, hinclusion, _⟩
  · rw [hsame]
    exact h
  · unfold Holds IsStandard
    rw [hinclusion, Inclusion.restore_standard h]
    exact h

theorem standard_leave (now : UInt64) (draws : Draws) (h : d.Holds IsStandard) :
    (d.leave now draws).2.1.Holds IsStandard := by
  rcases d.leave_cases now draws with hsame | ⟨_, hinclusion, _⟩
  · rw [hsame]
    exact h
  · unfold Holds IsStandard
    rw [hinclusion]
    exact h

theorem standard_perform (operation : Operation) {state : Device × Draws}
    (h : state.1.Holds IsStandard) : (operation.perform state).1.Holds IsStandard := by
  cases operation with
  | poll now => exact holds_poll IsStandard.keeps now state.2 h
  | processFrame frame now => exact holds_processFrame IsStandard.keeps frame now state.2 h
  | send destination topic payload now => exact holds_send destination topic payload now state.2 h
  | requestInclusion now => exact holds_requestInclusion IsStandard.keeps now state.2 h
  | enableInclusion => exact holds_enableInclusion state.2 h h
  | disableInclusion => exact h
  | provision key => exact standard_provision key h
  | leave now => exact standard_leave now state.2 h
  | shutdown => exact holds_shutdown h
  | surround radio storage => exact h

/-- A key that is provisioned keeps a coherent device coherent only where no
handshake is under way. -/
theorem coherent_provision_iff (key : MeshKey) (hrole : d.Holds IsStandard)
    (h : d.Holds Coherent) : (d.provision key).2.Holds Coherent ↔ d.inclusion.own = none := by
  rcases d.provision_cases key with ⟨hkey, hsame⟩ | ⟨hnone, hinclusion, hkeys⟩
  · rw [hsame]
    constructor
    · intro _
      cases hown : d.inclusion.own with
      | none => rfl
      | some session => exact absurd hkey (Bool.eq_false_iff.mp (h.keyless hown))
    · intro _
      exact h
  · unfold Holds
    rw [hinclusion, hkeys, Inclusion.restore_standard hrole]
    constructor
    · intro hafter
      cases hown : d.inclusion.own with
      | none => rfl
      | some session => cases hafter.pending hown
    · intro hown
      exact Coherent.of_included rfl rfl hown

theorem coherent_leave (now : UInt64) (draws : Draws) (hrole : d.Holds IsStandard)
    (h : d.Holds Coherent) : (d.leave now draws).2.1.Holds Coherent := by
  rcases d.leave_cases now draws with hsame | ⟨_, hinclusion, hkeys⟩
  · rw [hsame]
    exact h
  · unfold Holds
    rw [hinclusion, hkeys]
    exact Coherent.of_notIncluded (Inclusion.state_reset hrole) rfl rfl

/-- One operation keeps a device coherent unless it provisions a key while a
handshake is under way. -/
theorem coherent_perform (operation : Operation) {state : Device × Draws}
    (hrole : state.1.Holds IsStandard) (h : state.1.Holds Coherent)
    (hkey : ∀ key, operation = .provision key → state.1.inclusion.own = none) :
    (operation.perform state).1.Holds Coherent := by
  cases operation with
  | poll now => exact holds_poll Coherent.keeps now state.2 h
  | processFrame frame now => exact holds_processFrame Coherent.keeps frame now state.2 h
  | send destination topic payload now => exact holds_send destination topic payload now state.2 h
  | requestInclusion now => exact holds_requestInclusion Coherent.keeps now state.2 h
  | enableInclusion => exact holds_enableInclusion state.2 hrole h
  | disableInclusion => exact h
  | provision key => exact (coherent_provision_iff key hrole h).mpr (hkey key rfl)
  | leave now => exact coherent_leave now state.2 hrole h
  | shutdown => exact holds_shutdown h
  | surround radio storage => exact h

/-! ## Coming up -/

theorem holds_restoreRoutes {P : Inclusion → KeyRing → Prop} (now : UInt64) (h : d.Holds P) :
    (d.restoreRoutes now).2.Holds P := by
  unfold restoreRoutes
  split
  · exact h
  · exact h
  · split
    · exact h
    · exact h

theorem coherent_restoreMembership {after : Device} {hasKey : Bool}
    (hconfig : d.config.role = .standard) (hrole : d.Holds IsStandard)
    (hkey : d.keys.hasKey = hasKey) (hown : d.inclusion.own = none)
    (h : d.restoreMembership hasKey = (.ok (), after)) :
    after.Holds IsStandard ∧ after.Holds Coherent := by
  unfold restoreMembership at h
  rw [if_pos hconfig] at h
  cases hread : d.storage.readOptional Storage.inclusionState with
  | error e =>
    rw [hread] at h
    cases h
  | ok stored =>
    rw [hread] at h
    obtain ⟨_, rfl⟩ := Prod.mk.inj h
    unfold Holds IsStandard
    rw [Inclusion.restore_standard hrole]
    refine ⟨hrole, ?_⟩
    cases hasKey with
    | true => exact Coherent.of_included rfl hkey hown
    | false => exact Coherent.of_notIncluded rfl hkey hown

/-- A device that came up is coherent, whatever its storage held. -/
theorem coherent_init {config : Config} {radio : Radio} {storage : Storage}
    {provider : CryptoProvider} {created : Device} {now : UInt64}
    (hrole : config.role = .standard)
    (hcreate : create config radio storage provider = .ok created)
    (hinit : created.init now = (.ok (), d)) : d.Holds IsStandard ∧ d.Holds Coherent := by
  obtain rfl := eq_of_create hcreate
  unfold init at hinit
  cases hload : ({ provider := provider } : KeyRing).load storage with
  | error e =>
    rw [hload] at hinit
    cases hinit
  | ok loaded =>
    rcases loaded with ⟨hasKey, keys⟩
    have hkey : keys.hasKey = hasKey := KeyRing.hasKey_load rfl hload
    rw [hload] at hinit
    simp only at hinit
    let loaded : Device :=
      { config := config, radio := radio, storage := storage, router := .create config,
        inclusion := .create config, keys := keys }
    cases hrestore : loaded.restoreMembership hasKey with
    | mk result restored =>
      rw [hrestore] at hinit
      cases result with
      | error e => cases hinit
      | ok done =>
        obtain ⟨hstandard, hcoherent⟩ :=
          coherent_restoreMembership (d := loaded) hrole hrole hkey rfl hrestore
        have hsame : (restored.restoreRoutes now).2 = d := congrArg Prod.snd hinit
        rw [← hsame]
        exact ⟨holds_restoreRoutes now hstandard, holds_restoreRoutes now hcoherent⟩

/-! ## Runs -/

theorem standard_run (operations : List Operation) {state : Device × Draws}
    (h : state.1.Holds IsStandard) : (run state operations).1.Holds IsStandard := by
  induction operations generalizing state with
  | nil => exact h
  | cons operation operations ih => exact ih (standard_perform operation h)

/-- Nothing but a key provisioned in the middle of a handshake makes a run lose
coherence. -/
theorem coherent_run (operations : List Operation) {state : Device × Draws}
    (hrole : state.1.Holds IsStandard) (h : state.1.Holds Coherent)
    (hkeys : ∀ before key, before ++ [.provision key] <+: operations →
      (run state before).1.inclusion.own = none) :
    (run state operations).1.Holds Coherent := by
  induction operations generalizing state with
  | nil => exact h
  | cons operation operations ih =>
    have hfirst : (operation.perform state).1.Holds Coherent := by
      apply coherent_perform operation hrole h
      intro key hkey
      apply hkeys [] key
      rw [hkey]
      exact List.prefix_append [.provision key] operations
    apply ih (standard_perform operation hrole) hfirst
    intro before key hbefore
    exact hkeys (operation :: before) key (List.cons_prefix_cons.mpr ⟨rfl, hbefore⟩)

/-- A device that came up stays coherent through a run exactly as long as no key
is provisioned while a handshake of its own is under way: in every state reached
it is a member if and only if it holds a mesh key, and waits if and only if such
a handshake is under way. -/
theorem coherent_iff_not_provisioned_midway {config : Config} {radio : Radio} {storage : Storage}
    {provider : CryptoProvider} {created : Device} {now : UInt64} {draws : Draws}
    (hrole : config.role = .standard)
    (hcreate : create config radio storage provider = .ok created)
    (hinit : created.init now = (.ok (), d)) (operations : List Operation) :
    (∀ before, before <+: operations → (run (d, draws) before).1.Holds Coherent) ↔
      ∀ before key, before ++ [.provision key] <+: operations →
        (run (d, draws) before).1.inclusion.own = none := by
  obtain ⟨hstandard, hcoherent⟩ := coherent_init hrole hcreate hinit
  constructor
  · intro hall before key hbefore
    have hhere := hall before ((List.prefix_append before _).trans hbefore)
    have hnext := hall _ hbefore
    rw [run_append] at hnext
    exact (coherent_provision_iff key (standard_run before hstandard) hhere).mp hnext
  · intro hkeys before hbefore
    apply coherent_run before hstandard hcoherent
    intro earlier key hearlier
    exact hkeys earlier key (hearlier.trans hbefore)

def sampleConfig : Config := .standard ⟨9⟩

def sampleDevice : Device where
  config := sampleConfig
  radio := {}
  storage := {}
  router := .create sampleConfig
  inclusion := .create sampleConfig
  keys := { provider := .software }

def sampleDraws : Draws := { source := fun _ _ => [] }

def sampleKey : MeshKey := ⟨Bytes.block 32 []⟩

theorem provisioned_midway_incoherent :
    ¬ ∀ before, before <+: [.requestInclusion 0, .provision sampleKey] →
      (run (sampleDevice, sampleDraws) before).1.Holds Coherent := by
  intro hall
  have hcreate : create sampleConfig {} {} .software = .ok sampleDevice := rfl
  have hinit : sampleDevice.init 0 = (.ok (), sampleDevice) := rfl
  have hown := (coherent_iff_not_provisioned_midway rfl hcreate hinit _).mp hall
    [.requestInclusion 0] sampleKey (List.prefix_refl _)
  have hsome : (run (sampleDevice, sampleDraws) [.requestInclusion 0]).1.inclusion.own.isSome =
      true := by decide +kernel
  rw [hown] at hsome
  cases hsome

/-- A key that is provisioned during a handshake makes the device a member with
the handshake still under way. When that runs into its deadline the device keeps
the key and is no member. -/
theorem provisioned_midway_keeps_key :
    create sampleConfig {} {} .software = .ok sampleDevice ∧
      sampleDevice.init 0 = (.ok (), sampleDevice) ∧
      (run (sampleDevice, sampleDraws)
        [.requestInclusion 0, .provision sampleKey]).1.state = .included ∧
      (run (sampleDevice, sampleDraws)
        [.requestInclusion 0, .provision sampleKey]).1.inclusion.own.isSome = true ∧
      (run (sampleDevice, sampleDraws)
        [.requestInclusion 0, .provision sampleKey, .poll 60000]).1.state = .notIncluded ∧
      (run (sampleDevice, sampleDraws)
        [.requestInclusion 0, .provision sampleKey, .poll 60000]).1.keys.hasKey = true := by
  refine ⟨rfl, rfl, ?_, ?_, ?_, ?_⟩
  all_goals decide +kernel

end Device
end Meshwork
