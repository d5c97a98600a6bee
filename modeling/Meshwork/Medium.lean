import Meshwork.Text.Decimal

/-! # The medium

Devices stand at points of a plane. A signal loses strength with the logarithm
of the distance, and one weaker than the sensitivity is not heard. -/

namespace Meshwork
set_option autoImplicit false

structure Position where
  x : Float
  y : Float

namespace Position

def distance (a b : Position) : Float :=
  let dx := a.x - b.x
  let dy := a.y - b.y
  (dx * dx + dy * dy).sqrt

def nextSeed (seed : UInt64) : UInt64 := seed * 6364136223846793005 + 1

/-- The share of the word that a seed is. -/
def share (seed : UInt64) : Float := seed.toFloat / 18446744073709551615

/-- A place within bounds, the same for the same seed. -/
def random (maxX maxY : Float) (seed : UInt64) : Position :=
  let first := nextSeed seed
  ⟨share first * maxX, share (nextSeed first) * maxY⟩

end Position

/-- Strengths are in dBm, distances in metres. -/
structure Medium where
  txPower : Float := 14
  sensitivity : Float := -120
  pathLossExponent : Float := 3.5
  /-- The distance up to which nothing is lost but the reference loss. -/
  referenceDistance : Float := 1

namespace Medium

def pi : Float := 3.141592653589793

/-- The larger of two numbers, the other one if one is none. -/
def larger (a b : Float) : Float :=
  if a.isNaN then b else if b.isNaN then a else if a < b then b else a

def referenceLoss (m : Medium) : Float :=
  20 * (4 * pi * m.referenceDistance / 0.33).log10

def rssi (m : Medium) (sender receiver : Position) : Float :=
  let distance := larger (sender.distance receiver) m.referenceDistance
  let loss := m.referenceLoss + 10 * m.pathLossExponent * (distance / m.referenceDistance).log10
  m.txPower - loss

/-- The distance at which the sensitivity is reached. -/
def maxRange (m : Medium) : Float :=
  let budget := m.txPower - m.sensitivity - m.referenceLoss
  m.referenceDistance * Float.pow 10 (budget / (10 * m.pathLossExponent))

def reported (rssi : Float) : Int16 := rssi.round.toInt16

end Medium
end Meshwork
