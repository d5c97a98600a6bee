import Meshwork.Text.Hex

/-! # Numbers from text

Whole numbers in a base, and binary numbers that are nearest to a decimal
text. A sign may stand in front, a minus only where it is said so. -/

namespace Meshwork.Number
set_option autoImplicit false

/-- One more digit of a number in a base, if it is one. -/
def extend (base : Nat) (n : Option Nat) (c : Char) : Option Nat :=
  match n, Hex.digitValue? c with
  | some n, some d => if d < base then some (base * n + d) else none
  | _, _ => none

def ofDigits? (base : Nat) : List Char → Option Nat
  | [] => none
  | c :: cs => (c :: cs).foldl (extend base) (some 0)

/-- The text behind a plus sign, if there is one. -/
def afterPlus : List Char → List Char
  | '+' :: rest => rest
  | cs => cs

/-- A number less than `bound`. -/
def below? (base bound : Nat) (cs : List Char) : Option Nat :=
  match ofDigits? base (afterPlus cs) with
  | some n => if n < bound then some n else none
  | none => none

/-- A number less than `bound`, where zero may be negative. -/
def belowSigned? (base bound : Nat) : List Char → Option Nat
  | '-' :: rest => if ofDigits? base rest = some 0 then some 0 else none
  | cs => below? base bound cs

/-- The binary number nearest to `mantissa · 10 ^ exponent`. -/
def scientific (mantissa : Nat) (exponent : Int) : Float :=
  let size := exponent + (Nat.toDigits 10 mantissa).length
  if mantissa = 0 ∨ size < -400 then 0
  else if 400 < size then 1 / 0
  else if 0 ≤ exponent then Float.ofScientific mantissa false exponent.toNat
  else Float.ofScientific mantissa true (-exponent).toNat

/-- The exponent that a text states after its digits, zero if there is none. -/
def exponent? : List Char → Option Int
  | [] => some 0
  | c :: rest =>
    if c ≠ 'e' ∧ c ≠ 'E' then none
    else
      match rest with
      | '-' :: digits => (ofDigits? 10 digits).map fun n => -(n : Int)
      | digits => (ofDigits? 10 (afterPlus digits)).map fun n => (n : Int)

/-- The digits after a point, if there is one, and what follows them. -/
def fraction : List Char → List Char × List Char
  | '.' :: rest => (rest.takeWhile Char.isDigit, rest.dropWhile Char.isDigit)
  | cs => ([], cs)

/-- A number in decimal digits, at least one of them before or after the point. -/
def decimal? (cs : List Char) : Option Float :=
  let whole := cs.takeWhile Char.isDigit
  let (places, rest) := fraction (cs.dropWhile Char.isDigit)
  match ofDigits? 10 (whole ++ places), exponent? rest with
  | some mantissa, some e => some (scientific mantissa (e - places.length))
  | _, _ => none

/-- A number without its sign, or one of the names of what is no number. -/
def magnitude? (cs : List Char) : Option Float :=
  match String.ofList (cs.map Char.toLower) with
  | "inf" => some (1 / 0)
  | "infinity" => some (1 / 0)
  | "nan" => some (0 / 0)
  | _ => decimal? cs

def float? : List Char → Option Float
  | '-' :: rest => (magnitude? rest).map fun x => -x
  | cs => magnitude? (afterPlus cs)

end Meshwork.Number
