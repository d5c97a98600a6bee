import Meshwork.Crypto.Provider

/-!
# Ideal sealing

A blob opens only under the key and with the data that it was sealed with. That
no two seals ever meet is more than any cipher gives, but there are providers
that have it: one that writes key and data in front of the text.
-/

namespace Meshwork
set_option autoImplicit false

/-- A blob that the provider makes of a text, with draws of some kind. -/
def Seals (provider : CryptoProvider) (key : MeshKey) (aad plain blob : Bytes) : Prop :=
  ∃ before after, provider.sealText key aad plain before = (.ok blob, after)

/-- A blob opens only under the key and with the data that it was sealed with. -/
def SealsIdeally (provider : CryptoProvider) : Prop :=
  ∀ key key' aad aad' plain plain' blob, Seals provider key aad plain blob →
    provider.unsealText key' aad' blob = .ok plain' →
      key' = key ∧ aad' = aad ∧ plain' = plain

theorem MeshKey.toBytes_inj {k k' : MeshKey} (h : k.toBytes = k'.toBytes) : k = k' := by
  have hok := ofBytes_toBytes k
  rw [h, ofBytes_toBytes] at hok
  exact (Except.ok.inj hok).symm

namespace CryptoProvider

/-- The data with its length, spelled in ones, in front of it. -/
def measured (aad : Bytes) : Bytes := List.replicate aad.length 1 ++ 0 :: aad

def label (key : MeshKey) (aad : Bytes) : Bytes := key.toBytes ++ measured aad

/-- Hides nothing, and tells one seal from another. -/
def transparent : CryptoProvider where
  sealText key aad plain draws := (.ok (label key aad ++ plain), draws)
  unsealText key aad blob :=
    if (label key aad).isPrefixOf blob then .ok (blob.drop (label key aad).length)
    else .error .openFailed
  keyPair draws :=
    let (secret, draws) := draws.takeBlock 32
    (⟨secret, secret⟩, draws)
  derive _ _ salt _ := .ok ⟨Bytes.block 32 salt⟩

theorem ones_inj {n m : Nat} {rest rest' : Bytes}
    (h : List.replicate n (1 : UInt8) ++ 0 :: rest = List.replicate m 1 ++ 0 :: rest') :
    n = m ∧ rest = rest' := by
  induction n generalizing m with
  | zero =>
    cases m with
    | zero => exact ⟨rfl, (List.cons.inj h).2⟩
    | succ m => cases (List.cons.inj h).1
  | succ n ih =>
    cases m with
    | zero => cases (List.cons.inj h).1
    | succ m =>
      obtain ⟨hlength, hrest⟩ := ih (List.cons.inj h).2
      exact ⟨congrArg Nat.succ hlength, hrest⟩

theorem measured_inj {aad aad' plain plain' : Bytes}
    (h : measured aad ++ plain = measured aad' ++ plain') : aad = aad' ∧ plain = plain' := by
  unfold measured at h
  rw [List.append_assoc, List.append_assoc, List.cons_append, List.cons_append] at h
  obtain ⟨hlength, hrest⟩ := ones_inj h
  exact List.append_inj hrest hlength

theorem label_inj {key key' : MeshKey} {aad aad' plain plain' : Bytes}
    (h : label key aad ++ plain = label key' aad' ++ plain') :
    key = key' ∧ aad = aad' ∧ plain = plain' := by
  unfold label at h
  rw [List.append_assoc, List.append_assoc] at h
  obtain ⟨hkey, hrest⟩ := List.append_inj h (by simp)
  exact ⟨MeshKey.toBytes_inj hkey, measured_inj hrest⟩

theorem transparent_sealsIdeally : SealsIdeally transparent := by
  rintro key key' aad aad' plain plain' blob ⟨before, after, hseal⟩ hopen
  have hblob : label key aad ++ plain = blob := Except.ok.inj (congrArg Prod.fst hseal)
  change (if (label key' aad').isPrefixOf blob = true then
    Except.ok (blob.drop (label key' aad').length) else Except.error CryptoError.openFailed) =
      .ok plain' at hopen
  split at hopen
  · rename_i hprefix
    obtain ⟨rest, hrest⟩ := List.isPrefixOf_iff_prefix.mp hprefix
    obtain ⟨hkey, haad, hplain⟩ := label_inj (hrest.trans hblob.symm)
    have hdrop := Except.ok.inj hopen
    rw [← hrest, List.drop_left] at hdrop
    exact ⟨hkey, haad, hdrop.symm.trans hplain⟩
  · cases hopen

end CryptoProvider
end Meshwork
