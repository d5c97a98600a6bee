import Meshwork.KeyRing

/-!
# The mesh key of a ring

A key is installed where there is none, and what is sealed or opened is sealed or
opened under the key that is held.
-/

namespace Meshwork
set_option autoImplicit false

namespace KeyRing

theorem install_cases (k : KeyRing) (key : MeshKey) :
    (∃ e, k.key.isSome = true ∧ k.install key = .error e) ∨
      k.key = none ∧
        k.install key = .ok { k with key := some key, installs := k.installs + 1 } := by
  unfold install
  cases k.key with
  | some old => exact Or.inl ⟨_, rfl, rfl⟩
  | none => exact Or.inr ⟨rfl, rfl⟩

theorem eq_of_install {k keys : KeyRing} {key : MeshKey} (h : k.install key = .ok keys) :
    k.key = none ∧ keys = { k with key := some key, installs := k.installs + 1 } := by
  rcases k.install_cases key with ⟨e, _, herror⟩ | ⟨hnone, hok⟩
  · rw [herror] at h
    cases h
  · rw [hok] at h
    exact ⟨hnone, (Except.ok.inj h).symm⟩

/-- An empty ring holds a key after loading if it tells so. -/
theorem hasKey_load {k keys : KeyRing} {storage : Storage} {found : Bool} (hnone : k.key = none)
    (h : k.load storage = .ok (found, keys)) : keys.hasKey = found := by
  unfold load at h
  cases hread : storage.readOptional Storage.meshKey with
  | error e =>
    rw [hread] at h
    cases h
  | ok stored =>
    rw [hread] at h
    cases stored with
    | none =>
      cases h
      exact congrArg Option.isSome hnone
    | some bs =>
      simp only at h
      cases hkey : MeshKey.ofBytes bs with
      | error e =>
        rw [hkey] at h
        cases h
      | ok key =>
        rw [hkey] at h
        cases h
        rfl

theorem sealText_eq_ok {k : KeyRing} {aad plain blob : Bytes} {draws after : Draws}
    (h : k.sealText aad plain draws = (.ok blob, after)) :
    ∃ key, k.key = some key ∧ k.provider.sealText key aad plain draws = (.ok blob, after) := by
  unfold sealText at h
  cases hkey : k.key with
  | none =>
    rw [hkey] at h
    cases h
  | some key =>
    rw [hkey] at h
    simp only at h
    rcases hseal : k.provider.sealText key aad plain draws with ⟨result, rest⟩
    rw [hseal] at h
    cases result with
    | error e => cases h
    | ok sealedText =>
      cases h
      exact ⟨key, rfl, hseal⟩

theorem sealText_of_key {k : KeyRing} {key : MeshKey} {aad plain blob : Bytes}
    {draws after : Draws} (hkey : k.key = some key)
    (hseal : k.provider.sealText key aad plain draws = (.ok blob, after)) :
    k.sealText aad plain draws = (.ok blob, after) := by
  unfold sealText
  rw [hkey]
  simp only
  rw [hseal]

theorem unsealText_eq_ok {k : KeyRing} {aad blob text : Bytes}
    (h : k.unsealText aad blob = .ok text) :
    ∃ key, k.key = some key ∧ k.provider.unsealText key aad blob = .ok text := by
  unfold unsealText at h
  cases hkey : k.key with
  | none =>
    rw [hkey] at h
    cases h
  | some key =>
    rw [hkey] at h
    simp only at h
    cases hopen : k.provider.unsealText key aad blob with
    | error e =>
      rw [hopen] at h
      cases h
    | ok plain =>
      rw [hopen] at h
      cases h
      exact ⟨key, rfl, hopen⟩

theorem unsealText_of_key {k : KeyRing} {key : MeshKey} {aad blob text : Bytes}
    (hkey : k.key = some key) (hopen : k.provider.unsealText key aad blob = .ok text) :
    k.unsealText aad blob = .ok text := by
  unfold unsealText
  rw [hkey]
  simp only
  rw [hopen]

end KeyRing
end Meshwork
