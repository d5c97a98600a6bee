import Meshwork.Crypto.Provider
import Meshwork.Inclusion

/-!
# Salts of handshakes

The salt of a handshake is made of both nonces and of the secret, and the keyed hash
takes it with zeros behind it, up to a block. With a secret it fills the block, and
without one the zeros stand where a secret would: that of zeros alone, and no other,
is as good as none.
-/

namespace Meshwork
set_option autoImplicit false

namespace Hkdf

variable {key salt salt' : Bytes}

/-- A key that fits in a block is followed by as many zeros as are missing. -/
theorem blockKey_of_length_le (h : key.length ≤ blockLength) :
    blockKey key = key ++ List.replicate (blockLength - key.length) 0 := by
  unfold blockKey Bytes.fit
  rw [if_pos h, List.take_append, List.take_of_length_le h, List.take_replicate,
    Nat.min_eq_left (Nat.sub_le _ _)]

/-- Salts that are padded to one block derive the same. -/
theorem derive_of_blockKey (h : blockKey salt = blockKey salt') (secret info : Bytes) :
    derive salt secret info = derive salt' secret info := by
  unfold derive extract authenticate
  rw [h]

end Hkdf

theorem CryptoProvider.software_derive_of_blockKey {salt salt' : Bytes}
    (h : Hkdf.blockKey salt = Hkdf.blockKey salt') (own : KeyPair) (peer : Bytes.Block 32)
    (info : Bytes) : software.derive own peer salt info = software.derive own peer salt' info := by
  simp only [software, softwareDerive, Hkdf.derive_of_blockKey h]

namespace Inclusion

/-- The secret that is as good as none. -/
def blankSecret : Bytes.Block 32 := Bytes.block 32 []

/-- What stands behind the nonces in the block of a salt. -/
def secretPart (secret : Option (Bytes.Block 32)) : Bytes.Block 32 := secret.getD blankSecret

variable {secret secret' : Option (Bytes.Block 32)}
variable {request response request' response' : Bytes.Block 16}

/-- The block of a salt: its nonces, and the secret or zeros. -/
theorem blockKey_bootstrapSalt (secret : Option (Bytes.Block 32))
    (request response : Bytes.Block 16) :
    Hkdf.blockKey (bootstrapSalt secret request response) =
      request.val ++ response.val ++ (secretPart secret).val := by
  have hnonces : (request.val ++ response.val).length = 32 := by
    rw [List.length_append, request.property, response.property]
  cases secret with
  | none =>
    have hsalt : bootstrapSalt none request response = request.val ++ response.val :=
      List.append_nil _
    rw [hsalt, Hkdf.blockKey_of_length_le (by rw [hnonces]; decide), hnonces]
    rfl
  | some bs =>
    have hfull : (bootstrapSalt (some bs) request response).length = Hkdf.blockLength := by
      change (request.val ++ response.val ++ bs.val).length = Hkdf.blockLength
      rw [List.length_append, hnonces, bs.property]
      rfl
    rw [Hkdf.blockKey_of_length_le (Nat.le_of_eq hfull), hfull, Nat.sub_self]
    exact List.append_nil _

/-- Only the secret of zeros takes the place of none. -/
theorem secretPart_eq_iff :
    secretPart secret = secretPart secret' ↔
      secret = secret' ∨ (secret = none ∧ secret' = some blankSecret) ∨
        (secret = some blankSecret ∧ secret' = none) := by
  cases secret with
  | none =>
    cases secret' with
    | none => exact ⟨fun _ => Or.inl rfl, fun _ => rfl⟩
    | some bs =>
      constructor
      · intro h
        exact Or.inr (Or.inl ⟨rfl, congrArg some h.symm⟩)
      · rintro (h | ⟨_, h⟩ | ⟨h, _⟩)
        · cases h
        · exact (Option.some.inj h).symm
        · cases h
  | some bs =>
    cases secret' with
    | none =>
      constructor
      · intro h
        exact Or.inr (Or.inr ⟨congrArg some h, rfl⟩)
      · rintro (h | ⟨h, _⟩ | ⟨h, _⟩)
        · cases h
        · cases h
        · exact Option.some.inj h
    | some bs' =>
      constructor
      · intro h
        exact Or.inl (congrArg some h)
      · rintro (h | ⟨h, _⟩ | ⟨_, h⟩)
        · exact Option.some.inj h
        · cases h
        · cases h

/-- The keyed hash tells the salts of any two settings of the secret apart, after any
nonces, but for that of no secret and that of the secret of zeros. Those are one key to
it. -/
theorem blockKey_bootstrapSalt_eq_iff (secret secret' : Option (Bytes.Block 32))
    (request response request' response' : Bytes.Block 16) :
    Hkdf.blockKey (bootstrapSalt secret request response) =
        Hkdf.blockKey (bootstrapSalt secret' request' response') ↔
      (request = request' ∧ response = response') ∧
        (secret = secret' ∨ (secret = none ∧ secret' = some blankSecret) ∨
          (secret = some blankSecret ∧ secret' = none)) := by
  rw [blockKey_bootstrapSalt, blockKey_bootstrapSalt, ← secretPart_eq_iff]
  constructor
  · intro h
    rw [List.append_assoc, List.append_assoc] at h
    obtain ⟨hrequest, hrest⟩ :=
      List.append_inj h (request.property.trans request'.property.symm)
    obtain ⟨hresponse, hsecret⟩ :=
      List.append_inj hrest (response.property.trans response'.property.symm)
    exact ⟨⟨Subtype.ext hrequest, Subtype.ext hresponse⟩, Subtype.ext hsecret⟩
  · rintro ⟨⟨rfl, rfl⟩, hsecret⟩
    rw [hsecret]

/-- A hub that has the secret of zeros and a device that has none agree on a key. -/
theorem blankSecret_derives_same :
    (none : Option (Bytes.Block 32)) ≠ some blankSecret ∧
      Hkdf.blockKey (bootstrapSalt none (Bytes.block 16 [1]) (Bytes.block 16 [2])) =
        Hkdf.blockKey (bootstrapSalt (some blankSecret) (Bytes.block 16 [1]) (Bytes.block 16 [2])) ∧
      ∀ (own : KeyPair) (peer : Bytes.Block 32) (info : Bytes),
        CryptoProvider.software.derive own peer
            (bootstrapSalt none (Bytes.block 16 [1]) (Bytes.block 16 [2])) info =
          CryptoProvider.software.derive own peer
            (bootstrapSalt (some blankSecret) (Bytes.block 16 [1]) (Bytes.block 16 [2])) info := by
  have hblock : Hkdf.blockKey (bootstrapSalt none (Bytes.block 16 [1]) (Bytes.block 16 [2])) =
      Hkdf.blockKey
        (bootstrapSalt (some blankSecret) (Bytes.block 16 [1]) (Bytes.block 16 [2])) := by
    rw [blockKey_bootstrapSalt, blockKey_bootstrapSalt]
    rfl
  exact ⟨nofun, hblock, CryptoProvider.software_derive_of_blockKey hblock⟩

end Inclusion
end Meshwork
