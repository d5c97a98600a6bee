import Meshwork.Error
import Meshwork.Node

/-! # Membership

Whether a device belongs to a mesh, as it is remembered over a restart: a
handshake in progress is not. -/

namespace Meshwork
set_option autoImplicit false

inductive Membership where
  | notIncluded | inclusionPending | included
deriving DecidableEq, Repr

namespace Membership

def toByte : Membership → UInt8
  | notIncluded => 0
  | inclusionPending => 1
  | included => 2

def ofByte (b : UInt8) : Membership := if b = 2 then included else notIncluded

def label : Membership → String
  | notIncluded => "NotIncluded"
  | inclusionPending => "InclusionPending"
  | included => "Included"

end Membership

/-- How a handshake ended. -/
inductive InclusionEvent where
  | included (peer : NodeId)
  | failed (peer : NodeId) (reason : InclusionError)
deriving DecidableEq, Repr

end Meshwork
