import Meshwork.Crypto.Agreement
import Meshwork.Crypto.Gcm
import Meshwork.Crypto.Hkdf
import Meshwork.Draws
import Meshwork.Error

/-! # Cryptography that the mesh consumes

A provider seals payloads and agrees on keys; the mesh knows nothing else of
it. The software provider seals with AES-256 in Galois counter mode behind a
drawn nonce, and agrees over Curve25519. -/

namespace Meshwork
set_option autoImplicit false

structure MeshKey where
  bytes : Bytes.Block 32
deriving DecidableEq

namespace MeshKey

def ofBytes (bs : Bytes) : Except CryptoError MeshKey :=
  match Bytes.block? 32 bs with
  | some b => .ok ⟨b⟩
  | none => .error .invalidKey

def toBytes (k : MeshKey) : Bytes := k.bytes.val

/-- The bytes of a key are never shown. -/
def describe (_ : MeshKey) : String := "MeshKey([REDACTED])"

@[simp] theorem length_toBytes (k : MeshKey) : k.toBytes.length = 32 := k.bytes.property

@[simp] theorem ofBytes_toBytes (k : MeshKey) : ofBytes k.toBytes = .ok k := by
  have h : k.bytes.val.length = 32 := k.bytes.property
  simp [ofBytes, Bytes.block?, toBytes, h]

theorem toBytes_of_ofBytes {bs : Bytes} {k : MeshKey} (h : ofBytes bs = .ok k) :
    k.toBytes = bs := by
  unfold ofBytes Bytes.block? at h
  by_cases hlen : bs.length = 32
  · rw [dif_pos hlen] at h
    cases h
    rfl
  · rw [dif_neg hlen] at h
    cases h

end MeshKey

structure KeyPair where
  secret : Bytes.Block 32
  publicKey : Bytes.Block 32
deriving DecidableEq

namespace KeyPair

/-- Only the public half is shown. -/
def describe (p : KeyPair) : String :=
  "AgreementKeyPair \x7b public: \"" ++ Hex.encode p.publicKey.val ++ "\", .. \x7d"

end KeyPair

structure CryptoProvider where
  /-- Encrypts a text and binds it to the associated data. -/
  sealText : MeshKey → Bytes → Bytes → Draws → Except CryptoError Bytes × Draws
  /-- Gives the text back if it was sealed under this key and this data. -/
  unsealText : MeshKey → Bytes → Bytes → Except CryptoError Bytes
  keyPair : Draws → KeyPair × Draws
  /-- Agrees with a peer's public half on a key, for a salt and a purpose. -/
  derive : KeyPair → Bytes.Block 32 → Bytes → Bytes → Except CryptoError MeshKey

namespace CryptoProvider

def sealOverhead : Nat := Gcm.nonceLength + Gcm.tagLength

def softwareSeal (key : MeshKey) (aad plain : Bytes) (draws : Draws) :
    Except CryptoError Bytes × Draws :=
  let (nonce, draws) := draws.take Gcm.nonceLength
  (.ok (nonce ++ Gcm.encrypt key.toBytes nonce aad plain), draws)

def softwareUnseal (key : MeshKey) (aad sealedText : Bytes) : Except CryptoError Bytes :=
  if sealedText.length < sealOverhead then .error .openFailed
  else
    match Gcm.decrypt key.toBytes (sealedText.take Gcm.nonceLength) aad
        (sealedText.drop Gcm.nonceLength) with
    | some plain => .ok plain
    | none => .error .openFailed

def softwareKeyPair (draws : Draws) : KeyPair × Draws :=
  let (secret, draws) := draws.takeBlock 32
  (⟨secret, ⟨Agreement.publicOf secret.val, Agreement.length_multiply _ _⟩⟩, draws)

/-- Points of low order agree on zero and are refused. -/
def softwareDerive (own : KeyPair) (peer : Bytes.Block 32) (salt info : Bytes) :
    Except CryptoError MeshKey :=
  let point := Agreement.multiply own.secret.val peer.val
  if point = List.replicate 32 0 then .error .invalidPublicKey
  else .ok ⟨⟨Hkdf.derive salt point info, Hkdf.length_derive salt point info⟩⟩

def software : CryptoProvider where
  sealText := softwareSeal
  unsealText := softwareUnseal
  keyPair := softwareKeyPair
  derive := softwareDerive

/-- A provider that refuses to seal, and draws nothing for it. -/
def withoutSeal (p : CryptoProvider) : CryptoProvider :=
  { p with sealText := fun _ _ _ draws => (.error .sealFailed, draws) }

def freshKey (draws : Draws) : MeshKey × Draws :=
  let (bs, draws) := draws.takeBlock 32
  (⟨bs⟩, draws)

end CryptoProvider
end Meshwork
