import Meshwork.Crypto.Provider
import Meshwork.Storage
import Meshwork.Text.Record

/-! # The mesh key

A ring holds at most one mesh key and the provider that works with it. A key is
installed only where there is none; to replace one is a different step. -/

namespace Meshwork
set_option autoImplicit false

structure KeyRing where
  provider : CryptoProvider
  key : Option MeshKey := none
  /-- How often a key was installed, as a word that starts over when it is full. -/
  installs : UInt32 := 0

namespace KeyRing

def hasKey (k : KeyRing) : Bool := k.key.isSome

def install (k : KeyRing) (key : MeshKey) : Except KeyError KeyRing :=
  match k.key with
  | some _ => .error .alreadyInstalled
  | none => .ok { k with key := some key, installs := k.installs + 1 }

/-- Replaces the key and gives the old one back. -/
def rekey (k : KeyRing) (key : MeshKey) : Option MeshKey × KeyRing :=
  (k.key, { k with key := some key, installs := k.installs + 1 })

def clear (k : KeyRing) : KeyRing := { k with key := none }

def sealText (k : KeyRing) (aad plain : Bytes) (draws : Draws) :
    Except MeshError Bytes × Draws :=
  match k.key with
  | none => (.error (.key .missing), draws)
  | some key =>
    match k.provider.sealText key aad plain draws with
    | (.ok sealedText, draws) => (.ok sealedText, draws)
    | (.error e, draws) => (.error (.crypto e), draws)

def unsealText (k : KeyRing) (aad sealedText : Bytes) : Except MeshError Bytes :=
  match k.key with
  | none => .error (.key .missing)
  | some key =>
    match k.provider.unsealText key aad sealedText with
    | .ok plain => .ok plain
    | .error e => .error (.crypto e)

/-- Takes the stored key, if one is stored, and tells whether one was. -/
def load (k : KeyRing) (storage : Storage) : Except MeshError (Bool × KeyRing) :=
  match storage.readOptional Storage.meshKey with
  | .error e => .error (.storage e)
  | .ok none => .ok (false, k)
  | .ok (some bs) =>
    match MeshKey.ofBytes bs with
    | .error e => .error (.crypto e)
    | .ok key => .ok (true, { k with key := some key })

/-- Stores the key, or removes the stored one where there is none. -/
def flush (k : KeyRing) (storage : Storage) : Except MeshError Unit × Storage :=
  match k.key with
  | none => (.ok (), storage.remove Storage.meshKey)
  | some key =>
    match storage.write Storage.meshKey key.toBytes with
    | (.ok (), storage) => (.ok (), storage)
    | (.error e, storage) => (.error (.storage e), storage)

def describe (k : KeyRing) : String :=
  Record.describe "KeyManager"
    [("has_mesh_key", Record.bool k.hasKey), ("installs", Record.nat k.installs.toNat)]

end KeyRing
end Meshwork
