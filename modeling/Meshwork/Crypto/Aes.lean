import Meshwork.Bytes

/-! # AES-256

The block cipher under a key of 32 bytes, in the forward direction only. Bytes
are polynomials over two elements, reduced by x⁸ + x⁴ + x³ + x + 1. -/

namespace Meshwork.Aes
set_option autoImplicit false

/-- Multiplication by x. -/
def double (b : UInt8) : UInt8 :=
  if b &&& 0x80 = 0 then b <<< 1 else (b <<< 1) ^^^ 0x1B

def mulSteps : Nat → UInt8 → UInt8 → UInt8
  | 0, _, _ => 0
  | n + 1, a, b => (if b &&& 1 = 1 then a else 0) ^^^ mulSteps n (double a) (b >>> 1)

def mul (a b : UInt8) : UInt8 := mulSteps 8 a b

/-- The inverse of a byte, its power 254; zero for zero. -/
def inverse (b : UInt8) : UInt8 :=
  let b2 := mul b b
  let b4 := mul b2 b2
  let b8 := mul b4 b4
  let b16 := mul b8 b8
  let b32 := mul b16 b16
  let b64 := mul b32 b32
  let b128 := mul b64 b64
  mul b2 (mul b4 (mul b8 (mul b16 (mul b32 (mul b64 b128)))))

def rotateLeft (b n : UInt8) : UInt8 := (b <<< n) ||| (b >>> (8 - n))

def substitute (b : UInt8) : UInt8 :=
  let i := inverse b
  i ^^^ rotateLeft i 1 ^^^ rotateLeft i 2 ^^^ rotateLeft i 3 ^^^ rotateLeft i 4 ^^^ 0x63

def substitutions : Array UInt8 := Array.ofFn fun i : Fin 256 => substitute (UInt8.ofNat i)

def sub (b : UInt8) : UInt8 := substitutions.getD b.toNat 0

/-- The `count` further words of the key schedule, from the last eight, newest
first; `index` counts words from the start of the key. -/
def extend : Nat → Nat → UInt8 → List Bytes → List Bytes
  | 0, _, _, _ => []
  | count + 1, index, roundConstant, recent =>
    let last := recent.getD 0 []
    let turned :=
      if index % 8 = 0 then
        Bytes.xor ((last.drop 1 ++ last.take 1).map sub) [roundConstant, 0, 0, 0]
      else if index % 8 = 4 then last.map sub
      else last
    let word := Bytes.xor (recent.getD 7 []) turned
    let next := if index % 8 = 0 then double roundConstant else roundConstant
    word :: extend count (index + 1) next (word :: recent.take 7)

/-- The fifteen round keys, as flat blocks. -/
def roundKeys (key : Bytes) : List (Array UInt8) :=
  let first := Bytes.chunks 4 key
  let all := first ++ extend 52 8 1 first.reverse
  (Bytes.chunks 16 all.flatten).map List.toArray

def addKey (s k : Array UInt8) : Array UInt8 := Array.zipWith (· ^^^ ·) s k

/-- Substitutes all bytes and turns row `r` of the block left by `r`. -/
def substituteAndShift (s : Array UInt8) : Array UInt8 :=
  Array.ofFn fun i : Fin 16 => sub (s.getD ((i.val + 4 * (i.val % 4)) % 16) 0)

def mixColumns (s : Array UInt8) : Array UInt8 :=
  Array.ofFn fun i : Fin 16 =>
    let cell := fun k => s.getD (i.val / 4 * 4 + (i.val + k) % 4) 0
    double (cell 0) ^^^ double (cell 1) ^^^ cell 1 ^^^ cell 2 ^^^ cell 3

def rounds : List (Array UInt8) → Array UInt8 → Array UInt8
  | [], s => s
  | [last], s => addKey (substituteAndShift s) last
  | k :: ks, s => rounds ks (addKey (mixColumns (substituteAndShift s)) k)

/-- The cipher under round keys made beforehand. -/
def encipher (keys : List (Array UInt8)) (block : Bytes) : Bytes :=
  match keys with
  | [] => block
  | k :: ks => (rounds ks (addKey block.toArray k)).toList

end Meshwork.Aes
