import Meshwork.Bytes

/-! # JSON values

A value as its text spells it: members in order, repeated names kept, strings
as the bytes they hold. A number with a fraction or an exponent, or a negative
zero, is no integer and keeps its spelling. -/

namespace Meshwork
set_option autoImplicit false

inductive Json where
  | null
  | bool (value : Bool)
  | integer (value : Int)
  | decimal (spelling : Bytes)
  | string (content : Bytes)
  | array (items : List Json)
  | object (members : List (Bytes × Json))
deriving Inhabited

namespace Bytes

/-- The decimal digits of a number, without leading zeros. -/
def decimal (n : Nat) : Bytes :=
  if n < 10 then [48 + UInt8.ofNat n] else decimal (n / 10) ++ [48 + UInt8.ofNat (n % 10)]

def ofDecimal (digits : Bytes) : Nat := digits.foldl (fun n b => 10 * n + (b.toNat - 48)) 0

def isDigit (b : UInt8) : Bool := 48 ≤ b && b ≤ 57

end Bytes

namespace Json

def int? : Json → Option Int
  | integer value => some value
  | _ => none

/-- An integer from zero up to, but not including, `bound`. -/
def natBelow? (bound : Nat) (j : Json) : Option Nat :=
  match j.int? with
  | some n => if 0 ≤ n ∧ n < bound then some n.toNat else none
  | none => none

def byte? (j : Json) : Option UInt8 := (j.natBelow? UInt8.size).map UInt8.ofNat

def word64? (j : Json) : Option UInt64 := (j.natBelow? UInt64.size).map UInt64.ofNat

def bool? : Json → Option Bool
  | bool value => some value
  | _ => none

def array? : Json → Option (List Json)
  | array items => some items
  | _ => none

/-- An array of bytes, as many as asked for. -/
def block? (len : Nat) (j : Json) : Option (Bytes.Block len) :=
  match j.array? with
  | some items => (items.mapM byte?).bind (Bytes.block? len)
  | none => none

/-- The value of a member that is present at most once. -/
def member? (name : Bytes) (members : List (Bytes × Json)) : Option (Option Json) :=
  match members.filter (·.1 == name) with
  | [] => some none
  | [(_, value)] => some (some value)
  | _ => none

/-- The values of the named fields of a record. An object gives them by name,
each at most once, beside members with other names; an array gives them in
order and may leave out the last ones. -/
def record? (names : List Bytes) : Json → Option (List (Option Json))
  | object members =>
    if members.all (fun m => m.1.text?.isSome) then names.mapM (member? · members) else none
  | array items =>
    if items.length ≤ names.length then
      some (items.map some ++ List.replicate (names.length - items.length) none)
    else none
  | _ => none

def ofBytes (bs : Bytes) : Json := array (bs.map fun b => integer b.toNat)

end Json
end Meshwork
