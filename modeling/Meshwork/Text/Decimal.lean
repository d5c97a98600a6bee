/-! # Decimal texts of binary numbers

A floating-point number is written either with a fixed number of places, ties
going to the even neighbour, or with the fewest digits that no other number is
nearer to. Both work on the exact value, `mantissa · 2 ^ exponent`. -/

namespace Meshwork.Decimal
set_option autoImplicit false

structure Binary where
  mantissa : Nat
  exponent : Int
deriving DecidableEq

/-- What the bits of a number stand for. -/
inductive Value where
  | nan
  | infinite (negative : Bool)
  | finite (negative : Bool) (magnitude : Binary)
deriving DecidableEq

/-- The first bit of a mantissa, which is not among the bits of a number. -/
def implicitBit : Nat := 1 <<< 52

def ofBits (bits : UInt64) : Value :=
  let n := bits.toNat
  let negative := n >>> 63 == 1
  let field : Nat := n / implicitBit % 2048
  let fraction : Nat := n % implicitBit
  if field = 2047 then (if fraction = 0 then .infinite negative else .nan)
  else if field = 0 then .finite negative ⟨fraction, -1074⟩
  else .finite negative ⟨fraction + implicitBit, (field : Int) - 1075⟩

def sign (negative : Bool) : String := if negative then "-" else ""

/-- The quotient rounded to the nearest number, to the even one from the middle. -/
def roundDiv (num den : Nat) : Nat :=
  let q := num / den
  let r := num % den
  if 2 * r < den then q else if den < 2 * r then q + 1 else q + q % 2

/-- A positive and a negative power as numerator and denominator. -/
def power (base : Nat) (e : Int) : Nat × Nat := (Nat.pow base e.toNat, Nat.pow base (-e).toNat)

def padLeft (width : Nat) (fill : Char) (digits : List Char) : List Char :=
  List.replicate (width - digits.length) fill ++ digits

/-- A number of units of the last place, with the point before the last `places`. -/
def withPoint (places n : Nat) : String :=
  let digits := padLeft (places + 1) '0' (Nat.toDigits 10 n)
  let whole := digits.take (digits.length - places)
  if places = 0 then String.ofList whole
  else String.ofList (whole ++ '.' :: digits.drop (digits.length - places))

def scaled (places : Nat) (b : Binary) : Nat :=
  let (up, down) := power 2 b.exponent
  roundDiv (b.mantissa * up * Nat.pow 10 places) down

/-- A number with a fixed count of places. -/
def fixed (places : Nat) (x : Float) : String :=
  match ofBits x.toBits with
  | .nan => "NaN"
  | .infinite negative => sign negative ++ "inf"
  | .finite negative b => sign negative ++ withPoint places (scaled places b)

/-- The exponent of the first decimal digit: of one from `high` down, for which
the power of ten is at most `num / den`. -/
def leading (num den : Nat) : Nat → Int → Int
  | 0, high => high
  | fuel + 1, high =>
    let (up, down) := power 10 high
    if up * den ≤ num * down then high else leading num den fuel (high - 1)

/-- The distances, in quarters of the last place, within which a number is the
nearest one; below a power of two they are narrower. -/
def reach (b : Binary) : Nat × Nat :=
  if b.mantissa = implicitBit ∧ -1074 < b.exponent then (1, 2) else (2, 2)

/-- The multiple of `10 ^ k` that is nearest to a number and not nearer to
another one, if there is one. -/
def onGrid? (b : Binary) (k : Int) : Option Nat :=
  let (up2, down2) := power 2 (b.exponent - 2)
  let (up10, down10) := power 10 k
  let unit := up10 * down2
  let scale := up2 * down10
  let exact := 4 * b.mantissa * scale
  let (below, above) := reach b
  let low := (4 * b.mantissa - below) * scale
  let high := (4 * b.mantissa + above) * scale
  let inside := fun c : Nat =>
    if b.mantissa % 2 = 0 then decide (low ≤ c * unit ∧ c * unit ≤ high)
    else decide (low < c * unit ∧ c * unit < high)
  let c := exact / unit
  match inside c, inside (c + 1) with
  | false, false => none
  | true, false => some c
  | false, true => some (c + 1)
  | true, true => some (roundDiv exact unit)

/-- The fewest digits, from `count` on, and the exponent of the last of them. -/
def fewest (b : Binary) (first : Int) : Nat → Nat → Nat × Int
  | 0, count => (b.mantissa, first - count + 1)
  | fuel + 1, count =>
    let k := first - count + 1
    match onGrid? b k with
    | some c => (c, k)
    | none => fewest b first fuel (count + 1)

def digitsOf (b : Binary) : Nat × Int :=
  let (up, down) := power 2 b.exponent
  fewest b (leading (b.mantissa * up) down 700 310) 17 1

/-- Digits with a point or an exponent: a point while the first digit is at an
exponent from `lowest` to 15. -/
def layout (lowest : Int) (digits : List Char) (last : Int) : String :=
  let first := last + digits.length - 1
  if first < lowest ∨ 15 < first then
    let fraction := digits.drop 1
    String.ofList (digits.take 1 ++ (if fraction = [] then [] else '.' :: fraction))
      ++ "e" ++ toString first
  else if 0 ≤ last then
    String.ofList (digits ++ List.replicate last.toNat '0') ++ ".0"
  else if 0 ≤ first then
    String.ofList (digits.take (first.toNat + 1) ++ '.' :: digits.drop (first.toNat + 1))
  else String.ofList ('0' :: '.' :: List.replicate (-first - 1).toNat '0' ++ digits)

/-- A number with the fewest digits that tell it from all others. -/
def shortest (lowest : Int) (x : Float) : String :=
  match ofBits x.toBits with
  | .nan => "NaN"
  | .infinite negative => sign negative ++ "inf"
  | .finite negative b =>
    if b.mantissa = 0 then sign negative ++ "0.0"
    else
      let (n, last) := digitsOf b
      let digits := Nat.toDigits 10 n
      let kept := (digits.reverse.dropWhile (· == '0')).reverse
      sign negative ++ layout lowest kept (last + (digits.length - kept.length : Nat))

end Meshwork.Decimal
