import Meshwork.Bytes

/-! # Draws

All randomness comes from one source of byte strings. Draws of each length are
numbered on their own, so a run is determined by its source. -/

namespace Meshwork
set_option autoImplicit false

structure Draws where
  /-- The bytes of the draw with the given length and number. -/
  source : Nat → Nat → Bytes
  /-- How many draws of each length have been made. -/
  taken : List (Nat × Nat) := []

namespace Draws

def count (d : Draws) (len : Nat) : Nat := (d.taken.lookup len).getD 0

def bump : List (Nat × Nat) → Nat → List (Nat × Nat)
  | [], len => [(len, 1)]
  | (l, k) :: rest, len => if l = len then (l, k + 1) :: rest else (l, k) :: bump rest len

/-- The next draw of length `len`. -/
def take (d : Draws) (len : Nat) : Bytes × Draws :=
  (Bytes.fit len (d.source len (d.count len)), { d with taken := bump d.taken len })

@[simp] theorem length_take (d : Draws) (len : Nat) : (d.take len).1.length = len := by
  simp [take]

def takeBlock (d : Draws) (len : Nat) : Bytes.Block len × Draws :=
  (⟨(d.take len).1, d.length_take len⟩, (d.take len).2)

end Draws
end Meshwork
