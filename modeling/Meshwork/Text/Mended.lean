import Meshwork.Bytes

/-! # Bytes mended into text

Bytes that are no text become one by a mark in place of what is broken: of
every byte that starts no character, and of every character that breaks off. -/

namespace Meshwork.Mended
set_option autoImplicit false

abbrev Range := UInt8 × UInt8

def any : Range := (0x80, 0xBF)

/-- The ranges of the bytes that follow a first byte; none if it is not one. -/
def followers? (b : UInt8) : Option (List Range) :=
  if b < 0x80 then some []
  else if b < 0xC2 then none
  else if b < 0xE0 then some [any]
  else if b = 0xE0 then some [(0xA0, 0xBF), any]
  else if b = 0xED then some [(0x80, 0x9F), any]
  else if b < 0xF0 then some [any, any]
  else if b = 0xF0 then some [(0x90, 0xBF), any, any]
  else if b < 0xF4 then some [any, any, any]
  else if b = 0xF4 then some [(0x80, 0x8F), any, any]
  else none

/-- How many bytes follow as they should. -/
def matching : List Range → Bytes → Nat
  | (low, high) :: rs, b :: bs => if low ≤ b ∧ b ≤ high then matching rs bs + 1 else 0
  | _, _ => 0

def mark : Bytes := [0xEF, 0xBF, 0xBD]

def mend : Bytes → Bytes
  | [] => []
  | b :: bs =>
    match followers? b with
    | none => mark ++ mend bs
    | some ranges =>
      let n := matching ranges bs
      (if n = ranges.length then b :: bs.take n else mark) ++ mend (bs.drop n)
termination_by bs => bs.length
decreasing_by
  · exact Nat.lt_succ_self bs.length
  · exact Nat.lt_succ_of_le (List.length_drop ▸ Nat.sub_le bs.length n)

end Meshwork.Mended
