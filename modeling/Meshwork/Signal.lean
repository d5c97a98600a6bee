/-! # Signal quality

Six bands of received strength, in dBm, from silence upward. -/

namespace Meshwork
set_option autoImplicit false

inductive SignalLevel where
  | noSignal | veryPoor | poor | fair | good | excellent
deriving DecidableEq, Repr

namespace SignalLevel

def all : List SignalLevel := [noSignal, veryPoor, poor, fair, good, excellent]

def ofRssi (rssi : Int16) : SignalLevel :=
  let dbm := rssi.toInt
  if -90 ≤ dbm then excellent
  else if -100 ≤ dbm then good
  else if -110 ≤ dbm then fair
  else if -120 ≤ dbm then poor
  else if -130 ≤ dbm then veryPoor
  else noSignal

def rank : SignalLevel → Nat
  | noSignal => 0
  | veryPoor => 1
  | poor => 2
  | fair => 3
  | good => 4
  | excellent => 5

def label : SignalLevel → String
  | noSignal => "NoSignal"
  | veryPoor => "VeryPoor"
  | poor => "Poor"
  | fair => "Fair"
  | good => "Good"
  | excellent => "Excellent"

def ofLabel? (name : String) : Option SignalLevel := all.find? (·.label == name)

def strongest? : List SignalLevel → Option SignalLevel
  | [] => none
  | l :: ls => some (ls.foldl (fun a b => if a.rank ≤ b.rank then b else a) l)

def weakest? : List SignalLevel → Option SignalLevel
  | [] => none
  | l :: ls => some (ls.foldl (fun a b => if b.rank < a.rank then b else a) l)

end SignalLevel
end Meshwork
