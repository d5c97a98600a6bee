import Meshwork.Crypto.Sha256

/-! # Key derivation

A keyed hash, and the key that it extracts from a shared secret under a salt
and expands for one purpose. The salt counts only as the block it is padded
to. -/

namespace Meshwork.Hkdf
set_option autoImplicit false

def blockLength : Nat := 64

/-- A key as the keyed hash uses it: one block, zeros behind a shorter key. -/
def blockKey (key : Bytes) : Bytes :=
  Bytes.fit blockLength (if key.length ≤ blockLength then key else Sha256.hash key)

def authenticate (key text : Bytes) : Bytes :=
  let block := blockKey key
  Sha256.hash (block.map (· ^^^ 0x5C) ++ Sha256.hash (block.map (· ^^^ 0x36) ++ text))

def extract (salt secret : Bytes) : Bytes := authenticate salt secret

/-- The first 32 bytes expanded from an extracted key. -/
def expand (extracted info : Bytes) : Bytes := authenticate extracted (info ++ [1])

def derive (salt secret info : Bytes) : Bytes := expand (extract salt secret) info

@[simp] theorem length_derive (salt secret info : Bytes) :
    (derive salt secret info).length = 32 := by
  simp [derive, expand, authenticate]

end Meshwork.Hkdf
