import Meshwork.Bytes

/-! # Chance

Choices that a seed determines. A seed is stretched to a key, and the key
stream of a cipher in twelve rounds gives the words; a choice among `n` is the
high half of a word times `n`, drawn anew where that would favour some. -/

namespace Meshwork
set_option autoImplicit false

namespace Chance

/-- A word with its highest `n` bits moved to the end. -/
def turn (w : UInt32) (n : UInt32) : UInt32 := (w <<< n) ||| (w >>> (32 - n))

/-- What four words of the state become in a quarter of a round. -/
def quarter (a b c d : UInt32) : UInt32 × UInt32 × UInt32 × UInt32 :=
  let a := a + b
  let d := turn (d ^^^ a) 16
  let c := c + d
  let b := turn (b ^^^ c) 12
  let a := a + b
  let d := turn (d ^^^ a) 8
  let c := c + d
  let b := turn (b ^^^ c) 7
  (a, b, c, d)

abbrev Words := List UInt32

/-- Works a quarter of a round on the words at four places. -/
def mixAt (s : Words) (place : Nat × Nat × Nat × Nat) : Words :=
  let (i, j, k, l) := place
  let (a, b, c, d) := quarter (s.getD i 0) (s.getD j 0) (s.getD k 0) (s.getD l 0)
  (((s.set i a).set j b).set k c).set l d

/-- The places of two rounds: the columns of a square, and then its diagonals. -/
def places : List (Nat × Nat × Nat × Nat) :=
  [(0, 4, 8, 12), (1, 5, 9, 13), (2, 6, 10, 14), (3, 7, 11, 15),
   (0, 5, 10, 15), (1, 6, 11, 12), (2, 7, 8, 13), (3, 4, 9, 14)]

def rounds : Nat → Words → Words
  | 0, s => s
  | pairs + 1, s => rounds pairs (places.foldl mixAt s)

def constants : Words := [0x61707865, 0x3320646e, 0x79622d32, 0x6b206574]

/-- The state that the block with a number starts from. -/
def initial (key : Words) (number : UInt64) : Words :=
  constants ++ key ++ [number.toUInt32, (number >>> 32).toUInt32, 0, 0]

/-- Sixteen words of the key stream. -/
def block (key : Words) (number : UInt64) : Words :=
  let start := initial key number
  (rounds 6 start).zipWith (· + ·) start

def nextState (s : UInt64) : UInt64 := s * 6364136223846793005 + 11634580027462260723

def keyWord (s : UInt64) : UInt32 :=
  let x := (((s >>> 18) ^^^ s) >>> 27).toUInt32
  let n := (s >>> 59).toUInt32
  (x >>> n) ||| (x <<< ((32 - n) % 32))

def stretch : Nat → UInt64 → Words
  | 0, _ => []
  | count + 1, s => keyWord (nextState s) :: stretch count (nextState s)

end Chance

/-- A stream of words, and how far it has been read. -/
structure Chance where
  key : Chance.Words
  /-- The number of the next word of 64 bits. -/
  next : Nat := 0

namespace Chance

def ofSeed (seed : UInt64) : Chance := { key := stretch 8 seed }

/-- The word of 64 bits with a number: eight of them are in a block. -/
def wordAt (key : Words) (number : Nat) : Nat :=
  let words := block key (UInt64.ofNat (number / 8))
  let place := 2 * (number % 8)
  (words.getD place 0).toNat + UInt32.size * (words.getD (place + 1) 0).toNat

def word (c : Chance) : Nat × Chance := (wordAt c.key c.next, { c with next := c.next + 1 })

/-- The highest low half at which every choice among `n` is equally likely. -/
def zone (n : Nat) : Nat := (n <<< (63 - n.log2)) - 1

/-- A choice among `n`, in at most `attempts` attempts. -/
def belowWithin (n : Nat) : Nat → Chance → Nat × Chance
  | 0, c => (0, c)
  | attempts + 1, c =>
    let (w, c) := c.word
    if w * n % UInt64.size ≤ zone n then (w * n / UInt64.size, c) else belowWithin n attempts c

/-- A choice among `n`. An attempt fails less often than every other time. -/
def below (c : Chance) (n : Nat) : Nat × Chance := belowWithin n 1000 c

/-- A choice among `n`, and another one that differs from it. -/
def pairBelow (c : Chance) (n : Nat) : (Nat × Nat) × Chance :=
  let (a, c) := c.below n
  let (b, c) := c.below (n - 1)
  ((a, if a ≤ b then b + 1 else b), c)

end Chance
end Meshwork
