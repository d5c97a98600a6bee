import Meshwork.Proofs.Crypto.Sealing
import Meshwork.Proofs.Device.Reachable

/-!
# Frames and the mesh key

No frame replaces a mesh key. Where there is none, only a confirmation brings one:
to a standard device that waits for it, under the key of its own handshake.
-/

namespace Meshwork
set_option autoImplicit false

/-- Without sessions of a hub only the handshake of the device can run out of time. -/
theorem Inclusion.checkTimeouts_of_own {c : Inclusion} {now : UInt64} {session : Session}
    (hsessions : c.sessions = []) (hown : (c.checkTimeouts now).own = some session) :
    c.checkTimeouts now = c := by
  have hcheck : c.checkTimeouts now = c.failOverdueOwn now := by
    unfold checkTimeouts overduePeers
    rw [hsessions]
    rfl
  rw [hcheck] at hown ⊢
  unfold failOverdueOwn at hown ⊢
  split
  · rename_i s hs
    rw [hs] at hown
    simp only at hown
    split at hown
    · rw [failOwn_eq _ hs] at hown
      cases hown
    · rename_i hdue
      rw [if_neg hdue]
  · rfl

namespace Device

variable {d m after : Device} {config : Config} {draws : Draws} {frame : Bytes} {now : UInt64}
  {p : Packet} {key : MeshKey}

/-- The operations in which a device hears what others have sent. -/
inductive Operation.Hears : Operation → Prop where
  | poll (now : UInt64) : Hears (.poll now)
  | processFrame (frame : Bytes) (now : UInt64) : Hears (.processFrame frame now)

/-- A frame has brought a device its mesh key. -/
structure Confirmed (config : Config) (d : Device) (frame : Bytes) (p : Packet) (key : MeshKey)
    (after : Device) : Prop where
  role : config.role = .standard
  decoded : Packet.decode frame = .ok p
  topic : p.topic = .includeConfirm
  addressed : p.destination = config.nodeId
  opened : ∃ session bootstrap, d.inclusion.own = some session ∧
    session.step = .awaitingConfirm ∧ session.bootstrap = some bootstrap ∧
    d.keys.provider.unsealText bootstrap p.associatedData p.payload = .ok key.toBytes
  keys : after.keys = { d.keys with key := some key, installs := d.keys.installs + 1 }
  own : after.inclusion.own = none
  state : after.state = .included

/-! ## The frame alone -/

theorem confirmed_heed (hregular : d.Holds (Regular config)) (hquiet : d.inclusion.events = [])
    (hnone : d.keys.hasKey = false) (hkey : (d.heed frame now draws).keys.key = some key) :
    ∃ p, Confirmed config d frame p key (d.heed frame now draws) ∧
      (d.heed frame now draws).inclusion.events = [.included p.source] := by
  have hheeded := d.heeded frame now draws
  generalize d.heed frame now draws = m at hheeded hkey ⊢
  have hchanged : m.keys ≠ d.keys := by
    intro hsame
    rw [KeyRing.hasKey, ← hsame, hkey] at hnone
    cases hnone
  cases hheeded with
  | routed hinclusion hkeys hrouter => exact absurd hkeys hchanged
  | handshake p result after hdecode hhandled hinclusion hkeys hrouter =>
    cases hhandled with
    | joined draws' session bootstrap key' keys result htopic haddressed hown hpeer hstep
        hbootstrap hopen hinstall =>
      have hring := (KeyRing.eq_of_install hinstall).2
      have hsame : key' = key := by
        rw [hkeys, hring] at hkey
        exact Option.some.inj hkey
      rw [hsame] at hring hopen
      refine ⟨p, ⟨?_, hdecode, htopic, ?_, ⟨session, bootstrap, hown, hstep, hbootstrap, hopen⟩,
        hkeys.trans hring, ?_, ?_⟩, ?_⟩
      · exact hregular.own (by rw [hown]; rfl)
      · exact haddressed.trans hregular.nodeId
      · rw [hinclusion]
        rfl
      · unfold Device.state
        rw [hinclusion]
        rfl
      · rw [hinclusion]
        exact congrArg (· ++ [InclusionEvent.included p.source]) hquiet
    | _ => exact absurd hkeys hchanged

/-! ## The operations that hear one -/

theorem confirmed_processFrame (hregular : d.Holds (Regular config))
    (hquiet : d.inclusion.events = []) (hnone : d.keys.hasKey = false)
    (hkey : (d.processFrame frame now draws).2.1.keys.key = some key) :
    ∃ p, Confirmed config d frame p key (d.processFrame frame now draws).2.1 ∧
      d.results draws (.processFrame frame now) = [.included p.source] := by
  obtain ⟨storage, hemit⟩ := (d.heed frame now draws).emitEvents_eq
  rw [processFrame_eq hquiet, hemit] at hkey ⊢
  obtain ⟨p, hconfirmed, hevents⟩ := confirmed_heed hregular hquiet hnone hkey
  refine ⟨p, ?_, hevents⟩
  exact { hconfirmed with
    keys := hconfirmed.keys
    own := hconfirmed.own
    state := hconfirmed.state }

/-- A device that is woken in the middle of its handshake is as it was. -/
theorem Confirmed.woken (h : Confirmed config m frame p key after) (hwoken : Woken d now m)
    (hregular : d.Holds (Regular config)) (hquiet : d.inclusion.events = []) :
    Confirmed config d frame p key after ∧ (d.inclusion.checkTimeouts now).events = [] := by
  obtain ⟨session, bootstrap, hown, hrest⟩ := h.opened
  -- a handshake that had run out of time would be gone
  have hsame : d.inclusion.checkTimeouts now = d.inclusion := by
    rw [hwoken.inclusion] at hown
    exact Inclusion.checkTimeouts_of_own (hregular.sessions h.role) hown
  have hinclusion : m.inclusion.own = d.inclusion.own := by
    rw [hwoken.inclusion, hsame]
    rfl
  rw [hwoken.keys] at hrest
  refine ⟨{ h with opened := ?_, keys := ?_ }, by rw [hsame, hquiet]⟩
  · exact ⟨session, bootstrap, hinclusion.symm.trans hown, hrest⟩
  · rw [h.keys, hwoken.keys]

theorem confirmed_poll (hregular : d.Holds (Regular config)) (hquiet : d.inclusion.events = [])
    (hnone : d.keys.hasKey = false) (hkey : (d.poll now draws).2.1.keys.key = some key) :
    ∃ m frame p, d.hearing (.poll now) = some (m, frame, now) ∧
      Confirmed config d frame p key (d.poll now draws).2.1 ∧
      d.results draws (.poll now) = [.included p.source] := by
  rcases d.poll_cases now draws with ⟨_, hwoken⟩ | ⟨m, frame, hheard, hwoken, hafter⟩
  · rw [hwoken.keys] at hkey
    rw [KeyRing.hasKey, hkey] at hnone
    cases hnone
  · have hwoke : m.Holds (Regular config) := by
      unfold Holds
      rw [hwoken.inclusion, hwoken.keys]
      exact Regular.keeps.drain (Regular.keeps.expire now hregular)
    rw [hafter] at hkey ⊢
    obtain ⟨p, hconfirmed, hresults⟩ :=
      confirmed_processFrame hwoke hwoken.settled (hwoken.keys ▸ hnone) hkey
    obtain ⟨hconfirmed, hexpired⟩ := hconfirmed.woken hwoken hregular hquiet
    refine ⟨m, frame, p, hheard, hconfirmed, ?_⟩
    simp only [results] at hresults ⊢
    rw [hheard]
    change (d.inclusion.checkTimeouts now).events ++ (m.heed frame now draws).inclusion.events = _
    rw [hexpired, hresults, List.nil_append]

/-- Whatever a device hears, and at whatever time: a mesh key that it holds stays,
and where it holds none it gets one only by a confirmation for it, sealed under
the key of its own handshake. That ends the handshake, with one result. -/
theorem key_kept_or_confirmed (h : Reachable config d) {operation : Operation}
    (hhears : operation.Hears) (draws : Draws) :
    (d.keys.hasKey = true → (operation.perform (d, draws)).1.keys = d.keys) ∧
      (d.keys.hasKey = false → ∀ key, (operation.perform (d, draws)).1.keys.key = some key →
        ∃ m frame now p, d.hearing operation = some (m, frame, now) ∧
          Confirmed config d frame p key (operation.perform (d, draws)).1 ∧
          d.results draws operation = [.included p.source] ∧
          (operation.perform (d, draws)).1.notified = d.toldOf [.included p.source]) := by
  cases hhears with
  | processFrame frame now =>
    refine ⟨keys_processFrame, ?_⟩
    intro hnone key hkey
    obtain ⟨p, hconfirmed, hresults⟩ := confirmed_processFrame h.regular h.settled hnone hkey
    refine ⟨d, frame, now, p, rfl, hconfirmed, hresults, ?_⟩
    rw [← hresults]
    exact notified_processFrame h.settled
  | poll now =>
    refine ⟨keys_poll, ?_⟩
    intro hnone key hkey
    obtain ⟨m, frame, p, hheard, hconfirmed, hresults⟩ :=
      confirmed_poll h.regular h.settled hnone hkey
    refine ⟨m, frame, now, p, hheard, hconfirmed, hresults, ?_⟩
    rw [← hresults]
    exact d.notified_poll now draws

/-! ## A device that is confirmed -/

def joiningConfig : Config := .standard ⟨9⟩

def joiningDraws : Draws := { source := fun _ _ => [] }

def joiningStart : Device where
  config := joiningConfig
  radio := {}
  storage := {}
  router := .create joiningConfig
  inclusion := .create joiningConfig
  keys := { provider := .transparent }

/-- The offer of a hub, all zeros, and with it the key of the handshake. -/
def joiningOffer : Packet :=
  .fresh ⟨1⟩ ⟨9⟩ .includeResponse (List.replicate Inclusion.offerLength 0) 1

def joiningBootstrap : MeshKey := ⟨Bytes.block 32 []⟩

def joiningKey : MeshKey := ⟨Bytes.block 32 [7]⟩

def joiningHeader : Packet := .fresh ⟨1⟩ ⟨9⟩ .includeConfirm [] 2

def joiningConfirmation : Packet :=
  { joiningHeader with
    payload := CryptoProvider.label joiningBootstrap joiningHeader.associatedData ++
      joiningKey.toBytes }

theorem Reachable.attend (h : Reachable config d) (hencode : p.encode = .ok frame) (now : UInt64)
    (draws : Draws) : Reachable config (d.attend p now draws) := by
  rw [← perform_of_encode hencode h.settled]
  exact h.deed (.operate (.processFrame frame now)) draws

def joiningListener : Device := { joiningStart with hasInclusionHandler := true }

def joiningAsker : Device := (joiningListener.requestInclusion 0 joiningDraws).2.1

/-- The device waits for its confirmation. -/
def joiningDevice : Device := joiningAsker.attend joiningOffer 1 joiningDraws

def joiningFrame : Bytes := Packet.sealBody joiningConfirmation.body

theorem joiningConfirmation_encode : joiningConfirmation.encode = .ok joiningFrame :=
  Packet.encode_eq_ok_iff.mpr ⟨rfl, by decide +kernel, rfl⟩

theorem joiningDevice_reachable : Reachable joiningConfig joiningDevice := by
  have hstart : Reachable joiningConfig joiningStart := .create {} {} .transparent rfl
  have hlistens : Reachable joiningConfig joiningListener :=
    hstart.deed .listenInclusion joiningDraws
  have hasked : Reachable joiningConfig joiningAsker :=
    hlistens.deed (.operate (.requestInclusion 0)) joiningDraws
  have hencode : joiningOffer.encode = .ok (Packet.sealBody joiningOffer.body) :=
    Packet.encode_eq_ok_iff.mpr ⟨rfl, by decide, rfl⟩
  exact hasked.attend hencode 1 joiningDraws

theorem joiningDevice_confirmed :
    (Operation.perform (joiningDevice, joiningDraws) (.processFrame joiningFrame 2)).1.keys.key =
      some joiningKey := by
  rw [perform_of_encode joiningConfirmation_encode joiningDevice_reachable.settled]
  decide +kernel

theorem key_kept_or_confirmed_joining :
    ∃ m frame now p,
      joiningDevice.hearing (.processFrame joiningFrame 2) = some (m, frame, now) ∧
      Confirmed joiningConfig joiningDevice frame p joiningKey
        (Operation.perform (joiningDevice, joiningDraws) (.processFrame joiningFrame 2)).1 ∧
      joiningDevice.results joiningDraws (.processFrame joiningFrame 2) = [.included p.source] ∧
      (Operation.perform (joiningDevice, joiningDraws)
        (.processFrame joiningFrame 2)).1.notified = joiningDevice.toldOf [.included p.source] :=
  (key_kept_or_confirmed joiningDevice_reachable (.processFrame joiningFrame 2) joiningDraws).2
    (by decide +kernel) joiningKey joiningDevice_confirmed

end Device
end Meshwork
