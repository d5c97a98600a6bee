import Meshwork.Topic

/-! # Errors

One type of causes per concern, and the sum of them all. What the router
decides about a frame is an outcome, not an error. -/

namespace Meshwork
set_option autoImplicit false

inductive PacketError where
  | invalidLength (expected actual : Nat)
  | corrupted (expected actual : UInt32)
  | payloadTooLarge (size : Nat)
  /-- The topic is not the one its byte stands for. -/
  | invalidTopic (topic : Topic)
  | maxHops (hopCount limit : UInt8)
deriving DecidableEq, Repr

inductive RadioError where
  | txTimeout
  | rxTimeout
  | failure (reason : String)
deriving DecidableEq, Repr

inductive StorageError where
  | notFound (key : String)
  | failure (reason : String)
deriving DecidableEq, Repr

inductive CryptoError where
  | invalidKey
  | sealFailed
  | openFailed
  | invalidPublicKey
deriving DecidableEq, Repr

inductive KeyError where
  | alreadyInstalled
  | missing
deriving DecidableEq, Repr

/-- Why a handshake ended, or why one of its messages was refused. -/
inductive InclusionError where
  | timeout
  | outOfSequence (topic : Topic)
  | rejected (reason : String)
  | crypto (cause : CryptoError)
  | notInInclusionMode
  | sessionLimit
  | key (cause : KeyError)
deriving DecidableEq, Repr

inductive MeshError where
  | packet (cause : PacketError)
  | radio (cause : RadioError)
  | storage (cause : StorageError)
  | crypto (cause : CryptoError)
  | key (cause : KeyError)
  | inclusionFailed (cause : InclusionError)
  | notIncluded
  | invalidState (reason : String)
deriving DecidableEq, Repr

def PacketError.message : PacketError → String
  | invalidLength expected actual =>
    "invalid frame length: expected " ++ toString expected ++ " bytes, got " ++ toString actual
  | corrupted expected actual =>
    "packet corrupted: checksum " ++ Hex.word actual ++ " does not match " ++ Hex.word expected
  | payloadTooLarge size => "payload of " ++ toString size ++ " bytes exceeds frame capacity"
  | invalidTopic topic =>
    "topic " ++ topic.describe ++ " does not round-trip through its wire value"
  | maxHops hopCount limit =>
    "hop budget exhausted: " ++ toString hopCount.toNat ++ " of " ++ toString limit.toNat
      ++ " hops used"

def RadioError.message : RadioError → String
  | txTimeout => "radio transmit timeout"
  | rxTimeout => "radio receive timeout"
  | failure reason => "radio failure: " ++ reason

def StorageError.message : StorageError → String
  | notFound key => "storage key not found: " ++ key
  | failure reason => "storage failure: " ++ reason

def CryptoError.message : CryptoError → String
  | invalidKey => "invalid key material"
  | sealFailed => "seal failed"
  | openFailed => "open failed: payload is not authentic"
  | invalidPublicKey => "invalid public key"

def KeyError.message : KeyError → String
  | alreadyInstalled => "mesh key already installed"
  | missing => "no mesh key installed"

def InclusionError.message : InclusionError → String
  | timeout => "inclusion timed out"
  | outOfSequence topic => "unexpected " ++ topic.describe ++ " for the current handshake step"
  | rejected reason => "inclusion rejected: " ++ reason
  | crypto cause => "inclusion crypto failure: " ++ cause.message
  | notInInclusionMode => "not in inclusion mode"
  | sessionLimit => "inclusion session limit reached"
  | key cause => "inclusion key install failed: " ++ cause.message

def MeshError.message : MeshError → String
  | packet cause => cause.message
  | radio cause => cause.message
  | storage cause => cause.message
  | crypto cause => cause.message
  | key cause => cause.message
  | inclusionFailed cause => "inclusion failed: " ++ cause.message
  | notIncluded => "device is not included in a mesh"
  | invalidState reason => "invalid state: " ++ reason

end Meshwork
