import Meshwork.Draws

/-! # Draws from a seed

A seed stands for a source: every draw is cut from a sequence of words of its
own, and a word is its place in the sequence, scrambled. -/

namespace Meshwork.Draws
set_option autoImplicit false

def increment : UInt64 := 0x9E3779B97F4A7C15

/-- Spreads every bit of a word over all of it. -/
def scramble (z : UInt64) : UInt64 :=
  let z := (z ^^^ (z >>> 30)) * 0xBF58476D1CE4E5B9
  let z := (z ^^^ (z >>> 27)) * 0x94D049BB133111EB
  z ^^^ (z >>> 31)

/-- The words of a sequence from its `i`-th on. -/
def words (base : UInt64) : Nat → Nat → List UInt64
  | 0, _ => []
  | count + 1, i =>
    scramble (base + UInt64.ofNat (i + 1) * increment) :: words base count (i + 1)

/-- The bytes of the draw of a length with a number. -/
def seeded (seed : UInt64) (len number : Nat) : Bytes :=
  let base := seed + (UInt64.ofNat len <<< 32) + (UInt64.ofNat number <<< 16)
  ((words base ((len + 7) / 8) 0).flatMap fun w => Bytes.littleEndian 8 w.toNat).take len

def ofSeed (seed : UInt64) : Draws := { source := seeded seed }

end Meshwork.Draws
