import Meshwork.Topic.Name
import Meshwork.Error

/-! # Codes of errors

A code names the concern of an error and its cause there. The particulars of
an error, numbers and a text, are no part of its code. -/

namespace Meshwork
set_option autoImplicit false

def PacketError.code : PacketError → String
  | invalidLength _ _ => "Packet.InvalidLength"
  | corrupted _ _ => "Packet.PacketCorrupted"
  | payloadTooLarge _ => "Packet.PayloadTooLarge"
  | invalidTopic _ => "Packet.InvalidTopic"
  | maxHops _ _ => "Packet.MaxHops"

def RadioError.code : RadioError → String
  | txTimeout => "Radio.TxTimeout"
  | rxTimeout => "Radio.RxTimeout"
  | failure _ => "Radio.Failure"

def StorageError.code : StorageError → String
  | notFound _ => "Storage.NotFound"
  | failure _ => "Storage.Failure"

def CryptoError.code : CryptoError → String
  | invalidKey => "Crypto.InvalidKey"
  | sealFailed => "Crypto.SealFailed"
  | openFailed => "Crypto.OpenFailed"
  | invalidPublicKey => "Crypto.InvalidPublicKey"

def KeyError.code : KeyError → String
  | alreadyInstalled => "Key.AlreadyInstalled"
  | missing => "Key.Missing"

def InclusionError.code : InclusionError → String
  | timeout => "Inclusion.Timeout"
  | outOfSequence _ => "Inclusion.OutOfSequence"
  | rejected _ => "Inclusion.Rejected"
  | crypto cause => "Inclusion." ++ cause.code
  | notInInclusionMode => "Inclusion.NotInInclusionMode"
  | sessionLimit => "Inclusion.SessionLimit"
  | key cause => "Inclusion." ++ cause.code

def MeshError.code : MeshError → String
  | packet cause => cause.code
  | radio cause => cause.code
  | storage cause => cause.code
  | crypto cause => cause.code
  | key cause => cause.code
  | inclusionFailed cause => cause.code
  | notIncluded => "NotIncluded"
  | invalidState _ => "InvalidState"

namespace CryptoError

def all : List CryptoError := [invalidKey, sealFailed, openFailed, invalidPublicKey]

end CryptoError

namespace KeyError

def all : List KeyError := [alreadyInstalled, missing]

end KeyError

/-- The topic that the text of an error names. -/
def namedTopic (text : String) : Topic := (Topic.ofName? text).getD .ping

/-- An error of every cause that ends a handshake. -/
def InclusionError.withText (text : String) : List InclusionError :=
  [timeout, outOfSequence (namedTopic text), rejected text, notInInclusionMode, sessionLimit]
    ++ CryptoError.all.map crypto ++ KeyError.all.map key

namespace MeshError

/-- An error of every code, with the given particulars. -/
def withParticulars (a b : Nat) (text : String) : List MeshError :=
  [packet (.invalidLength a b), packet (.corrupted (UInt32.ofNat a) (UInt32.ofNat b)),
   packet (.payloadTooLarge a), packet (.invalidTopic (namedTopic text)),
   packet (.maxHops (UInt8.ofNat a) (UInt8.ofNat b)), radio .txTimeout, radio .rxTimeout,
   radio (.failure text), storage (.notFound text), storage (.failure text), notIncluded,
   invalidState text]
    ++ CryptoError.all.map crypto ++ KeyError.all.map key
    ++ (InclusionError.withText text).map inclusionFailed

/-- The error of a code. -/
def ofCode? (code : String) (a b : Nat) (text : String) : Option MeshError :=
  (withParticulars a b text).find? (·.code == code)

theorem code_of_ofCode? {code text : String} {a b : Nat} {e : MeshError}
    (h : ofCode? code a b text = some e) : e.code = code := by
  simpa using List.find?_some h

end MeshError
end Meshwork
