import Meshwork.Error
import Meshwork.Signal

/-! # The radio

Frames wait in an inbox with the strength they were heard at, and in an outbox
until the medium takes them. Sending and receiving can be made to fail. -/

namespace Meshwork
set_option autoImplicit false

structure Radio where
  inbox : List (Bytes × Int16) := []
  outbox : List Bytes := []
  rssi : Int16 := 0
  sendFault : Option RadioError := none
  receiveFault : Option RadioError := none
deriving DecidableEq

namespace Radio

def inject (r : Radio) (frame : Bytes) (rssi : Int16) : Radio :=
  { r with inbox := r.inbox ++ [(frame, rssi)] }

def takeOutbox (r : Radio) : List Bytes × Radio := (r.outbox, { r with outbox := [] })

def pending (r : Radio) : Nat := r.inbox.length

def signal (r : Radio) : SignalLevel := .ofRssi r.rssi

def send (r : Radio) (frame : Bytes) : Except RadioError Radio :=
  match r.sendFault with
  | some e => .error e
  | none => .ok { r with outbox := r.outbox ++ [frame] }

def receive (r : Radio) : Except RadioError (Option Bytes × Radio) :=
  match r.receiveFault with
  | some e => .error e
  | none =>
    match r.inbox with
    | [] => .ok (none, r)
    | (frame, rssi) :: rest => .ok (some frame, { r with inbox := rest, rssi := rssi })

/-- Makes sending run into the timeout, or work again. -/
def failSend (r : Radio) (on : Bool) : Radio :=
  { r with sendFault := if on then some .txTimeout else none }

end Radio
end Meshwork
