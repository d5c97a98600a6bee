import Meshwork.Text.Hex

/-! # Topics

A topic is one byte on the air. Every byte is some topic; a topic that is not
the one its own byte stands for is not canonical and never goes on the air. -/

namespace Meshwork
set_option autoImplicit false

inductive Topic where
  | ping | pong | ack | cmd | bye
  | includeRequest | includeResponse | includeOpen | includeConfirm | includeSuccess
  | reserved (value : UInt8)
  | application (value : UInt8)
deriving DecidableEq, Repr, Inhabited

inductive TopicCategory where
  | control | inclusion | application
deriving DecidableEq, Repr

def TopicCategory.label : TopicCategory → String
  | control => "Control"
  | inclusion => "Inclusion"
  | application => "Application"

namespace Topic

/-- The highest byte that belongs to the protocol itself. -/
def maxReserved : UInt8 := 0x0F

def toByte : Topic → UInt8
  | ping => 0x01
  | pong => 0x02
  | ack => 0x03
  | cmd => 0x04
  | bye => 0x05
  | includeRequest => 0x06
  | includeResponse => 0x07
  | includeOpen => 0x08
  | includeConfirm => 0x09
  | includeSuccess => 0x0A
  | reserved value => value
  | application value => value

/-- The topics with a byte of their own. -/
def named : List Topic :=
  [ping, pong, ack, cmd, bye,
    includeRequest, includeResponse, includeOpen, includeConfirm, includeSuccess]

def ofByte (value : UInt8) : Topic :=
  match named.find? (fun t => t.toByte == value) with
  | some t => t
  | none => if value ≤ maxReserved then reserved value else application value

def isCanonical (t : Topic) : Bool := ofByte t.toByte == t

/-- The application topic of a byte above the protocol's own. -/
def application? (value : UInt8) : Option Topic :=
  if maxReserved < value then some (application value) else none

def category : Topic → TopicCategory
  | includeRequest | includeResponse | includeOpen | includeConfirm | includeSuccess => .inclusion
  | application _ => .application
  | _ => .control

def isInclusion (t : Topic) : Bool := t.category == .inclusion

def isReserved : Topic → Bool
  | reserved _ => true
  | _ => false

/-- The topic that answers this one on its own when it is delivered. -/
def reply? : Topic → Option Topic
  | ping => some pong
  | cmd => some ack
  | _ => none

theorem toByte_ofByte (value : UInt8) : (ofByte value).toByte = value := by
  unfold ofByte
  split
  next t h => simpa using List.find?_some h
  next => split <;> rfl

theorem isCanonical_ofByte (value : UInt8) : (ofByte value).isCanonical = true := by
  simp [isCanonical, toByte_ofByte]

def label : Topic → String
  | ping => "PING"
  | pong => "PONG"
  | ack => "ACK"
  | cmd => "CMD"
  | bye => "BYE"
  | includeRequest => "INCLUDE_REQUEST"
  | includeResponse => "INCLUDE_RESPONSE"
  | includeOpen => "INCLUDE_OPEN"
  | includeConfirm => "INCLUDE_CONFIRM"
  | includeSuccess => "INCLUDE_SUCCESS"
  | reserved value => "RESERVED(0x" ++ Hex.encode [value] ++ ")"
  | application value => "APP(0x" ++ Hex.encode [value] ++ ")"

def describe : Topic → String
  | ping => "Ping"
  | pong => "Pong"
  | ack => "Ack"
  | cmd => "Cmd"
  | bye => "Bye"
  | includeRequest => "IncludeRequest"
  | includeResponse => "IncludeResponse"
  | includeOpen => "IncludeOpen"
  | includeConfirm => "IncludeConfirm"
  | includeSuccess => "IncludeSuccess"
  | reserved value => "Reserved(" ++ toString value.toNat ++ ")"
  | application value => "Application(" ++ toString value.toNat ++ ")"

end Topic
end Meshwork
