import Meshwork.Bytes

/-! # Hexadecimal text

Two lower-case digits to the byte when written; digits of either case when
read. -/

namespace Meshwork.Hex
set_option autoImplicit false

def digit (n : Nat) : Char :=
  if n < 10 then Char.ofNat (48 + n) else Char.ofNat (87 + n)

def digitValue? (c : Char) : Option Nat :=
  if '0' ≤ c ∧ c ≤ '9' then some (c.toNat - 48)
  else if 'a' ≤ c ∧ c ≤ 'f' then some (c.toNat - 87)
  else if 'A' ≤ c ∧ c ≤ 'F' then some (c.toNat - 55)
  else none

def byteDigits (b : UInt8) : List Char := [digit (b.toNat / 16), digit (b.toNat % 16)]

def digits (bs : Bytes) : List Char := bs.flatMap byteDigits

def encode (bs : Bytes) : String := String.ofList (digits bs)

def word (w : UInt32) : String := encode (Bytes.bigEndian 4 w.toNat)

/-- Reads digits in pairs, and refuses an odd digit out. -/
def decode? : List Char → Option Bytes
  | [] => some []
  | [_] => none
  | a :: b :: rest =>
    match digitValue? a, digitValue? b, decode? rest with
    | some x, some y, some bs => some (UInt8.ofNat (16 * x + y) :: bs)
    | _, _, _ => none

end Meshwork.Hex
