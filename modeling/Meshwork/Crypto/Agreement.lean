import Meshwork.Bytes

/-! # Key agreement

Multiplication of points on the curve y² = x³ + 486662 x² + x over the field
of 2²⁵⁵ − 19 elements, by first coordinates alone. Two parties reach the same
point from each other's multiples of the base point. -/

namespace Meshwork.Agreement
set_option autoImplicit false

def modulus : Nat := (1 <<< 255) - 19

def add (a b : Nat) : Nat := (a + b) % modulus
def sub (a b : Nat) : Nat := (a + modulus - b) % modulus
def mul (a b : Nat) : Nat := a * b % modulus

/-- `a` to the power written by the lowest `bits` bits of `e`. -/
def power (a : Nat) : Nat → Nat → Nat
  | 0, _ => 1
  | bits + 1, e =>
    let half := power a bits (e / 2)
    if e % 2 = 1 then mul a (mul half half) else mul half half

def inverse (a : Nat) : Nat := power a 255 (modulus - 2)

/-- Two neighbouring multiples of a point, as fractions. -/
structure Pair where
  x2 : Nat
  z2 : Nat
  x3 : Nat
  z3 : Nat

namespace Pair

def swap (p : Pair) : Pair := ⟨p.x3, p.z3, p.x2, p.z2⟩

/-- From the multiples `n` and `n + 1` of `u` to `2 n` and `2 n + 1`. -/
def double (u : Nat) (p : Pair) : Pair :=
  let a := add p.x2 p.z2
  let b := sub p.x2 p.z2
  let aa := mul a a
  let bb := mul b b
  let e := sub aa bb
  let da := mul (sub p.x3 p.z3) a
  let cb := mul (add p.x3 p.z3) b
  let s := add da cb
  let d := sub da cb
  ⟨mul aa bb, mul e (add aa (mul 121665 e)), mul s s, mul u (mul d d)⟩

end Pair

/-- Works through the lowest `bits` bits of `n`, highest first. -/
def ladder (u n : Nat) : Nat → Pair → Pair
  | 0, p => p
  | bits + 1, p =>
    ladder u n bits (if n.testBit bits then (p.swap.double u).swap else p.double u)

/-- A scalar is a multiple of eight with its top bit at place 254. -/
def clamp (n : Nat) : Nat := n % (1 <<< 254) / 8 * 8 + (1 <<< 254)

/-- The multiple of the point `u` that the secret stands for. -/
def multiply (secret u : Bytes) : Bytes :=
  let x := Bytes.ofLittleEndian u % (1 <<< 255) % modulus
  let p := ladder x (clamp (Bytes.ofLittleEndian secret)) 255 ⟨1, 0, x, 1⟩
  Bytes.littleEndian 32 (mul p.x2 (inverse p.z2))

def basePoint : Bytes := 9 :: List.replicate 31 0

def publicOf (secret : Bytes) : Bytes := multiply secret basePoint

@[simp] theorem length_multiply (secret u : Bytes) : (multiply secret u).length = 32 := by
  simp [multiply]

end Meshwork.Agreement
