import Meshwork.Json

/-! # Reading JSON

A text is one value with blanks around it. Control characters are refused in
strings, leading zeros in numbers, and commas before a closing bracket. -/

namespace Meshwork.Json
set_option autoImplicit false

def isBlank (b : UInt8) : Bool := b == 32 || b == 9 || b == 10 || b == 13

def skipBlanks (bs : Bytes) : Bytes := bs.dropWhile isBlank

def stripped (lead bs : Bytes) : Option Bytes :=
  if lead.isPrefixOf bs then some (bs.drop lead.length) else none

def hexValue? (b : UInt8) : Option Nat :=
  if 48 ≤ b ∧ b ≤ 57 then some (b.toNat - 48)
  else if 97 ≤ b ∧ b ≤ 102 then some (b.toNat - 87)
  else if 65 ≤ b ∧ b ≤ 70 then some (b.toNat - 55)
  else none

/-- The code unit of four hexadecimal digits. -/
def unit? : Bytes → Option (Nat × Bytes)
  | a :: b :: c :: d :: rest =>
    match hexValue? a, hexValue? b, hexValue? c, hexValue? d with
    | some a, some b, some c, some d => some (((a * 16 + b) * 16 + c) * 16 + d, rest)
    | _, _, _, _ => none
  | _ => none

/-- A code point spread over bytes. A lone surrogate is spread like any other,
and the bytes it leaves are part of no text. -/
def spread (n : Nat) : Bytes :=
  let byte := fun (lead shift width : Nat) => UInt8.ofNat (lead + (n >>> shift) % (1 <<< width))
  if n < 0x80 then [UInt8.ofNat n]
  else if n < 0x800 then [byte 0xC0 6 5, byte 0x80 0 6]
  else if n < 0x10000 then [byte 0xE0 12 4, byte 0x80 6 6, byte 0x80 0 6]
  else [byte 0xF0 18 3, byte 0x80 12 6, byte 0x80 6 6, byte 0x80 0 6]

/-- The bytes of the code unit after a backslash and `u`, which takes the
second half of a surrogate pair with it. -/
def unicodeEscape (bs : Bytes) : Option (Bytes × Bytes) :=
  match unit? bs with
  | none => none
  | some (high, rest) =>
    match rest with
    | 92 :: 117 :: after =>
      match unit? after with
      | some (low, rest') =>
        if 0xD800 ≤ high ∧ high < 0xDC00 ∧ 0xDC00 ≤ low ∧ low < 0xE000 then
          some (spread (0x10000 + (high - 0xD800) * 0x400 + (low - 0xDC00)), rest')
        else some (spread high, rest)
      | none => some (spread high, rest)
    | _ => some (spread high, rest)

/-- What follows a backslash. -/
def escape : Bytes → Option (Bytes × Bytes)
  | [] => none
  | b :: rest =>
    if b = 34 ∨ b = 92 ∨ b = 47 then some ([b], rest)
    else if b = 98 then some ([8], rest)
    else if b = 102 then some ([12], rest)
    else if b = 110 then some ([10], rest)
    else if b = 114 then some ([13], rest)
    else if b = 116 then some ([9], rest)
    else if b = 117 then unicodeEscape rest
    else none

/-- The content of a string after its opening quote, and what follows the
closing one. -/
def content : Nat → Bytes → Option (Bytes × Bytes)
  | 0, _ => none
  | _, [] => none
  | fuel + 1, b :: rest =>
    if b = 34 then some ([], rest)
    else if b = 92 then
      match escape rest with
      | some (piece, rest) => (content fuel rest).map fun (bs, r) => (piece ++ bs, r)
      | none => none
    else if b < 32 then none
    else (content fuel rest).map fun (bs, r) => (b :: bs, r)

/-- What follows a fraction, if there is one. -/
def fraction : Bytes → Option Bytes
  | 46 :: rest =>
    match rest with
    | d :: _ => if Bytes.isDigit d then some (rest.dropWhile Bytes.isDigit) else none
    | [] => none
  | bs => some bs

/-- What follows an exponent, if there is one. -/
def exponent : Bytes → Option Bytes
  | [] => some []
  | b :: rest =>
    if b = 101 ∨ b = 69 then
      let digits :=
        match rest with
        | s :: more => if s = 43 ∨ s = 45 then more else rest
        | [] => []
      match digits with
      | d :: _ => if Bytes.isDigit d then some (digits.dropWhile Bytes.isDigit) else none
      | [] => none
    else some (b :: rest)

/-- A number without its sign; `spelled` is the text from the sign on. -/
def unsigned (negative : Bool) (spelled bs : Bytes) : Option (Json × Bytes) :=
  let digits := bs.takeWhile Bytes.isDigit
  let rest := bs.dropWhile Bytes.isDigit
  if digits = [] ∨ (digits.length ≠ 1 ∧ digits.head? = some 48) then none
  else
    match (fraction rest).bind exponent with
    | none => none
    | some after =>
      let n := Bytes.ofDecimal digits
      if after.length = rest.length ∧ ¬(negative ∧ n = 0) then
        some (integer (if negative then -(n : Int) else n), after)
      else some (decimal (spelled.take (spelled.length - after.length)), after)

def number (bs : Bytes) : Option (Json × Bytes) :=
  match bs with
  | 45 :: rest => unsigned true bs rest
  | _ => unsigned false bs bs

def literal (bs : Bytes) : Option (Json × Bytes) :=
  match stripped (Bytes.ofText "null") bs with
  | some rest => some (null, rest)
  | none =>
    match stripped (Bytes.ofText "true") bs with
    | some rest => some (bool true, rest)
    | none =>
      match stripped (Bytes.ofText "false") bs with
      | some rest => some (bool false, rest)
      | none => number bs

mutual

/-- The value at the front of a text. -/
def value : Nat → Bytes → Option (Json × Bytes)
  | 0, _ => none
  | fuel + 1, bs =>
    match skipBlanks bs with
    | [] => none
    | b :: rest =>
      if b = 34 then (content (rest.length + 1) rest).map fun (bs, r) => (string bs, r)
      else if b = 91 then
        match skipBlanks rest with
        | 93 :: r => some (array [], r)
        | r => (items fuel r).map fun (vs, r) => (array vs, r)
      else if b = 123 then
        match skipBlanks rest with
        | 125 :: r => some (object [], r)
        | r => (members fuel r).map fun (ms, r) => (object ms, r)
      else literal (b :: rest)

/-- The values up to a closing bracket, at least one. -/
def items : Nat → Bytes → Option (List Json × Bytes)
  | 0, _ => none
  | fuel + 1, bs =>
    match value fuel bs with
    | none => none
    | some (v, rest) =>
      match skipBlanks rest with
      | 44 :: r => (items fuel r).map fun (vs, r) => (v :: vs, r)
      | 93 :: r => some ([v], r)
      | _ => none

/-- The members up to a closing brace, at least one. -/
def members : Nat → Bytes → Option (List (Bytes × Json) × Bytes)
  | 0, _ => none
  | fuel + 1, bs =>
    match skipBlanks bs with
    | 34 :: rest =>
      match content (rest.length + 1) rest with
      | none => none
      | some (name, rest) =>
        match skipBlanks rest with
        | 58 :: rest =>
          match value fuel rest with
          | none => none
          | some (v, rest) =>
            match skipBlanks rest with
            | 44 :: r => (members fuel r).map fun (ms, r) => ((name, v) :: ms, r)
            | 125 :: r => some ([(name, v)], r)
            | _ => none
        | _ => none
    | _ => none

end

/-- The value of a whole text. Every call reads at least one byte before it
calls again, or calls for a value from a list, so twice the length is enough. -/
def parse? (bs : Bytes) : Option Json :=
  match value (2 * bs.length + 1) bs with
  | some (v, rest) => if skipBlanks rest = [] then some v else none
  | none => none

end Meshwork.Json
