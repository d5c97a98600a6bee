import Meshwork.Proofs.Device.Frames
import Meshwork.Proofs.Handshake.Fields

/-!
# The states a device can be in

A device is created with a configuration, and then anything is done with it, any
number of times and in any order. A hub never has a handshake of its own, a
standard device never one with a peer, and between two operations no result waits
to be told.
-/

namespace Meshwork
set_option autoImplicit false

namespace Device

/-- Everything that can be done with a device once it is there. -/
inductive Deed where
  | operate (operation : Operation)
  | init (now : UInt64)
  | listen
  | listenInclusion

def Deed.perform (state : Device × Draws) : Deed → Device × Draws
  | operate operation => operation.perform state
  | init now => ((state.1.init now).2, state.2)
  | listen =>
    match state.1.listen with
    | .ok d => (d, state.2)
    | .error _ => state
  | listenInclusion =>
    match state.1.listenInclusion with
    | .ok d => (d, state.2)
    | .error _ => state

/-- The states of a device that was created with this configuration; the draws
of a deed may be any. -/
inductive Reachable (config : Config) : Device → Prop where
  | create {d : Device} (radio : Radio) (storage : Storage) (provider : CryptoProvider) :
      create config radio storage provider = .ok d → Reachable config d
  | deed {d : Device} (deed : Deed) (draws : Draws) :
      Reachable config d → Reachable config (deed.perform (d, draws)).1

variable {d : Device} {config : Config} {draws : Draws}

/-! ## What else moves the handshakes -/

theorem requestInclusion_cases (d : Device) (now : UInt64) (draws : Draws) :
    ∃ result after router radio,
      Party.Requested { inclusion := d.inclusion, keys := d.keys, draws := draws } now result
        after ∧
      d.router.Quiet router ∧
      (d.requestInclusion now draws).2.1 =
        { d with
          inclusion := after.inclusion
          keys := after.keys
          router := router
          radio := radio } := by
  have hrequested := Party.requested
    { inclusion := d.inclusion, keys := d.keys, draws := draws } now
  unfold requestInclusion
  simp only [asParty]
  generalize Party.request { inclusion := d.inclusion, keys := d.keys, draws := draws } now =
    requested at hrequested ⊢
  rcases requested with ⟨result, after⟩
  cases result with
  | error e => exact ⟨_, after, d.router, d.radio, hrequested, Router.Quiet.refl _, rfl⟩
  | ok p =>
    have hquiet := Station.quiet_transmit
      { router := d.router, radio := d.radio, draws := after.draws } p now.toNat
    simp only [atStation]
    generalize Station.transmit { router := d.router, radio := d.radio, draws := after.draws } p
      now.toNat = sent at hquiet ⊢
    rcases sent with ⟨sent, station⟩
    refine ⟨_, after, station.router, station.radio, hrequested, hquiet, ?_⟩
    cases sent with
    | error e => rfl
    | ok id => rfl

theorem enableInclusion_cases (d : Device) (draws : Draws) :
    ∃ accepting keys storage, (d.enableInclusion draws).2.1 =
      { d with
        inclusion := { d.inclusion with accepting := accepting }
        keys := keys
        storage := storage } := by
  obtain ⟨accepting, henable⟩ :=
    Party.inclusion_enable { inclusion := d.inclusion, keys := d.keys, draws := draws }
  unfold enableInclusion
  simp only [asParty]
  generalize Party.enable { inclusion := d.inclusion, keys := d.keys, draws := draws } =
    enabled at henable ⊢
  rcases enabled with ⟨result, after⟩
  change after.inclusion = _ at henable
  rw [henable]
  cases result with
  | error e => exact ⟨accepting, after.keys, d.storage, rfl⟩
  | ok done =>
    obtain ⟨storage, hpersist⟩ := persistMembership_eq
      { d with inclusion := { d.inclusion with accepting := accepting }, keys := after.keys }
    exact ⟨accepting, after.keys, storage, hpersist⟩

theorem restore_cases (c : Inclusion) (remembered : Membership) :
    ∃ state, c.restore remembered = { c with state := state } := by
  unfold Inclusion.restore
  split
  · exact ⟨remembered, rfl⟩
  · exact ⟨c.state, rfl⟩

theorem init_cases (d : Device) (now : UInt64) :
    ∃ state keys table, (d.init now).2 =
      { d with
        inclusion := { d.inclusion with state := state }
        keys := keys
        router.table := table } := by
  have hroutes : ∀ m : Device, ∃ table, (m.restoreRoutes now).2 =
      { m with router.table := table } := by
    intro m
    unfold restoreRoutes
    split
    · exact ⟨m.router.table, rfl⟩
    · exact ⟨m.router.table, rfl⟩
    · split
      · exact ⟨m.router.table, rfl⟩
      · exact ⟨_, rfl⟩
  have hmembership : ∀ (m : Device) (hasKey : Bool), ∃ state, (m.restoreMembership hasKey).2 =
      { m with inclusion := { m.inclusion with state := state } } := by
    intro m hasKey
    unfold restoreMembership
    split
    · split
      · exact ⟨m.inclusion.state, rfl⟩
      · simp only
        obtain ⟨state, hrestore⟩ := restore_cases m.inclusion
          (if hasKey = true then .included else .notIncluded)
        exact ⟨state, by rw [hrestore]⟩
    · exact ⟨m.inclusion.state, rfl⟩
  unfold init
  cases d.keys.load d.storage with
  | error e => exact ⟨d.inclusion.state, d.keys, d.router.table, rfl⟩
  | ok loaded =>
    rcases loaded with ⟨hasKey, keys⟩
    obtain ⟨state, hrestored⟩ := hmembership { d with keys := keys } hasKey
    simp only
    generalize ({ d with keys := keys } : Device).restoreMembership hasKey = restored
      at hrestored ⊢
    rcases restored with ⟨result, m⟩
    change m = _ at hrestored
    cases result with
    | error e => exact ⟨state, keys, d.router.table, hrestored⟩
    | ok done =>
      obtain ⟨table, hroutes⟩ := hroutes m
      refine ⟨state, keys, table, ?_⟩
      simp only
      rw [hroutes, hrestored]

/-! ## A device that has been created -/

/-- What the handshakes of a device with this configuration always look like. -/
structure Regular (config : Config) (c : Inclusion) (_ : KeyRing) : Prop where
  setup : c.setup = (Inclusion.create config).setup
  own : c.own.isSome = true → config.role = .standard
  sessions : config.role = .standard → c.sessions = []

namespace Regular

variable {c c' : Inclusion} {k k' : KeyRing}

theorem nodeId (h : Regular config c k) : c.nodeId = config.nodeId :=
  congrArg Inclusion.Setup.nodeId h.setup

theorem role (h : Regular config c k) : c.role = config.role :=
  congrArg Inclusion.Setup.role h.setup

/-- Only sessions are restricted, and what a device is set up with. -/
theorem of_eq (h : Regular config c k) (hsetup : c'.setup = c.setup)
    (hown : c'.own.isSome = true → c.own.isSome = true) (hsessions : c'.sessions = c.sessions) :
    Regular config c' k' :=
  ⟨hsetup.trans h.setup, fun hsome => h.own (hown hsome),
    fun hrole => hsessions.trans (h.sessions hrole)⟩

theorem failPeer_sessions (peer : NodeId) (reason : InclusionError) (h : c.sessions = []) :
    (c.failPeer peer reason).sessions = [] := by
  unfold Inclusion.failPeer
  split
  · unfold Inclusion.queue Inclusion.eraseSession
    rw [h, List.filter_nil]
  · exact h

theorem failPeer (h : Regular config c k) (peer : NodeId) (reason : InclusionError) :
    Regular config (c.failPeer peer reason) k :=
  ⟨(c.failPeer_setup peer reason).trans h.setup,
    fun hsome => h.own (c.failPeer_own peer reason ▸ hsome),
    fun hrole => failPeer_sessions peer reason (h.sessions hrole)⟩

theorem failOwn (h : Regular config c k) (reason : InclusionError) :
    Regular config (c.failOwn reason) k := by
  unfold Inclusion.failOwn
  split
  · exact h.of_eq rfl (fun hsome => by cases hsome) rfl
  · exact h

/-- No frame that a device hears opens a session unless it is a hub. -/
theorem hub (h : Regular config c k) (hrole : c.role = .hub) (hsessions : c'.setup = c.setup)
    (hown : c'.own = c.own) : Regular config c' k := by
  have hhub : config.role = .hub := h.role.symm.trans hrole
  refine ⟨hsessions.trans h.setup, fun hsome => h.own (hown ▸ hsome), ?_⟩
  intro hstandard
  rw [hhub] at hstandard
  cases hstandard

theorem sessions_ne {session : Session} {peer : NodeId} (h : Regular config c k)
    (hsession : c.session? peer = some session) : c.role = .hub := by
  cases hrole : c.role with
  | hub => rfl
  | standard =>
    unfold Inclusion.session? at hsession
    rw [h.sessions (h.role.symm.trans hrole)] at hsession
    cases hsession

theorem keeps : Party.Keeps (Regular config) where
  handle {s s' p now result} hhandled h := by
    cases hhandled with
    | refused e draws => exact h
    | peerFailed e draws session hsession => exact h.failPeer p.source e
    | ownFailed e draws session hown hpeer => exact h.failOwn e
    | opened draws session peerKey peerNonce bootstrap reply htopic hrole =>
      exact h.hub hrole rfl rfl
    | confirmed draws session bootstrap key reply htopic haddressed hsession =>
      exact h.hub (h.sessions_ne hsession) rfl rfl
    | completed session key htopic haddressed hsession =>
      exact h.hub (h.sessions_ne hsession) rfl rfl
    | answered draws session hubKey hubNonce bootstrap reply htopic haddressed hown =>
      refine h.of_eq rfl ?_ rfl
      intro _
      rw [hown]
      rfl
    | joined draws session bootstrap key keys result htopic haddressed hown hpeer hstep hbootstrap
        hopen hinstall =>
      exact h.of_eq rfl (fun hsome => by cases hsome) rfl
  request {s s' now result} hrequested h := by
    cases hrequested with
    | refused e draws => exact h
    | asked draws session p hrole =>
      exact ⟨h.setup, fun _ => h.role.symm.trans hrole, h.sessions⟩
  expire {c k} now h := by
    have hrest : Regular config (c.failOverduePeers now) k :=
      Inclusion.failPeers_induct (P := fun c => Regular config c k)
        (fun c peer h => h.failPeer peer .timeout) _ h
    change Regular config ((c.failOverduePeers now).failOverdueOwn now) k
    unfold Inclusion.failOverdueOwn
    split
    · split
      · exact hrest.failOwn .timeout
      · exact hrest
    · exact hrest
  drain h := h.of_eq rfl id rfl

end Regular

theorem regular_perform (operation : Operation) (h : d.Holds (Regular config)) :
    (operation.perform (d, draws)).1.Holds (Regular config) := by
  cases operation with
  | poll now => exact holds_poll Regular.keeps now draws h
  | processFrame frame now => exact holds_processFrame Regular.keeps frame now draws h
  | send destination topic payload now => exact holds_send destination topic payload now draws h
  | requestInclusion now => exact holds_requestInclusion Regular.keeps now draws h
  | enableInclusion =>
    obtain ⟨accepting, keys, storage, henable⟩ := d.enableInclusion_cases draws
    change (d.enableInclusion draws).2.1.Holds (Regular config)
    rw [henable]
    exact h.of_eq rfl id rfl
  | disableInclusion => exact h.of_eq rfl id rfl
  | provision key =>
    rcases d.provision_cases key with ⟨_, hsame⟩ | ⟨_, hinclusion, _⟩
    · change (d.provision key).2.Holds (Regular config)
      rw [hsame]
      exact h
    · obtain ⟨state, hrestore⟩ := restore_cases d.inclusion .included
      change Regular config (d.provision key).2.inclusion _
      rw [hinclusion, hrestore]
      exact h.of_eq rfl id rfl
  | leave now =>
    rcases d.leave_cases now draws with hsame | ⟨_, hinclusion, _⟩
    · change (d.leave now draws).2.1.Holds (Regular config)
      rw [hsame]
      exact h
    · change Regular config (d.leave now draws).2.1.inclusion _
      rw [hinclusion]
      exact h.of_eq rfl (fun hsome => by cases hsome) rfl
  | shutdown => exact holds_shutdown h
  | surround radio storage => exact h

theorem settled_emitEvents (d : Device) : d.emitEvents.2.inclusion.events = [] := by
  obtain ⟨storage, hemit⟩ := d.emitEvents_eq
  rw [hemit]
  rfl

theorem settled_processFrame (frame : Bytes) (now : UInt64) (h : d.inclusion.events = []) :
    (d.processFrame frame now draws).2.1.inclusion.events = [] := by
  rw [processFrame_eq h]
  exact settled_emitEvents _

theorem Woken.settled {m : Device} {now : UInt64} (h : Woken d now m) :
    m.inclusion.events = [] := by
  rw [h.inclusion]
  rfl

/-- No result is left in the queue when an operation is over. -/
theorem settled_perform (operation : Operation) (h : d.inclusion.events = []) :
    (operation.perform (d, draws)).1.inclusion.events = [] := by
  cases operation with
  | poll now =>
    change (d.poll now draws).2.1.inclusion.events = []
    rcases d.poll_cases now draws with ⟨_, hwoken⟩ | ⟨m, frame, _, hwoken, hafter⟩
    · exact hwoken.settled
    · rw [hafter]
      exact settled_processFrame frame now hwoken.settled
  | processFrame frame now => exact settled_processFrame frame now h
  | send destination topic payload now =>
    exact holds_send (P := fun c _ => c.events = []) destination topic payload now draws h
  | requestInclusion now =>
    obtain ⟨result, after, router, radio, hrequested, _, hrequest⟩ :=
      d.requestInclusion_cases now draws
    change (d.requestInclusion now draws).2.1.inclusion.events = []
    rw [hrequest]
    cases hrequested with
    | _ => exact h
  | enableInclusion =>
    obtain ⟨accepting, keys, storage, henable⟩ := d.enableInclusion_cases draws
    change (d.enableInclusion draws).2.1.inclusion.events = []
    rw [henable]
    exact h
  | disableInclusion => exact h
  | provision key =>
    change (d.provision key).2.inclusion.events = []
    rcases d.provision_cases key with ⟨_, hsame⟩ | ⟨_, hinclusion, _⟩
    · rw [hsame]
      exact h
    · obtain ⟨state, hrestore⟩ := restore_cases d.inclusion .included
      rw [hinclusion, hrestore]
      exact h
  | leave now =>
    change (d.leave now draws).2.1.inclusion.events = []
    rcases d.leave_cases now draws with hsame | ⟨_, hinclusion, _⟩
    · rw [hsame]
      exact h
    · rw [hinclusion]
      exact h
  | shutdown => exact holds_shutdown (P := fun c _ => c.events = []) h
  | surround radio storage => exact h

/-- A property of the handshakes that operations keep and that no membership
touches is kept by everything that can be done with a device. -/
theorem holds_deed {P : Inclusion → KeyRing → Prop} (deed : Deed)
    (hoperate : ∀ operation : Operation, d.Holds P → (operation.perform (d, draws)).1.Holds P)
    (hstate : ∀ c k state k', P c k → P { c with state := state } k')
    (h : d.Holds P) : (deed.perform (d, draws)).1.Holds P := by
  cases deed with
  | operate operation => exact hoperate operation h
  | init now =>
    obtain ⟨state, keys, table, hinit⟩ := d.init_cases now
    change (d.init now).2.Holds P
    rw [hinit]
    exact hstate d.inclusion d.keys state keys h
  | listen =>
    unfold Deed.perform listen
    cases d.router.listen with
    | error e => exact h
    | ok router => exact h
  | listenInclusion =>
    unfold Deed.perform listenInclusion
    simp only
    split
    · rename_i heq
      split at heq
      · cases heq
      · cases heq
        exact h
    · exact h

theorem Reachable.regular (h : Reachable config d) : d.Holds (Regular config) := by
  induction h with
  | create radio storage provider hcreate =>
    rw [eq_of_create hcreate]
    exact ⟨rfl, (fun hsome => by cases hsome), fun _ => rfl⟩
  | deed deed draws h ih =>
    exact holds_deed deed (fun operation => regular_perform operation)
      (fun c k state k' h => h.of_eq rfl id rfl) ih

theorem Reachable.settled (h : Reachable config d) : d.inclusion.events = [] := by
  induction h with
  | create radio storage provider hcreate =>
    rw [eq_of_create hcreate]
    rfl
  | deed deed draws h ih =>
    exact holds_deed (P := fun c _ => c.events = []) deed
      (fun operation => settled_perform operation) (fun c k state k' h => h) ih

end Device
end Meshwork
