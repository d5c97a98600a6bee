/-! # Bytes

Strings of bytes and the two ways of spreading a number over them. Reading
undoes writing modulo the width, and writing undoes reading at full width. -/

namespace Meshwork
set_option autoImplicit false

abbrev Bytes := List UInt8

namespace Bytes

/-- The `len` low bytes of `n`, least significant first. -/
def littleEndian : Nat → Nat → Bytes
  | 0, _ => []
  | len + 1, n => UInt8.ofNat n :: littleEndian len (n / 256)

def ofLittleEndian : Bytes → Nat
  | [] => 0
  | b :: bs => b.toNat + 256 * ofLittleEndian bs

/-- The `len` low bytes of `n`, most significant first. -/
def bigEndian (len n : Nat) : Bytes := (littleEndian len n).reverse

def ofBigEndian (bs : Bytes) : Nat := ofLittleEndian bs.reverse

/-- The first `len` bytes, with zeros behind a text that is too short. -/
def fit (len : Nat) (bs : Bytes) : Bytes := (bs ++ List.replicate len 0).take len

/-- The bytes at positions `start` to `start + len`, as far as there are any. -/
def slice (start len : Nat) (bs : Bytes) : Bytes := (bs.drop start).take len

/-- The first `count` pieces of `size` bytes. -/
def cut (size : Nat) : Nat → Bytes → List Bytes
  | 0, _ => []
  | count + 1, bs => bs.take size :: cut size count (bs.drop size)

/-- Pieces of `size` bytes, the last one possibly shorter. -/
def chunks (size : Nat) (bs : Bytes) : List Bytes := cut size ((bs.length + size - 1) / size) bs

def ofText (s : String) : Bytes := s.toUTF8.toList

/-- The text that bytes encode, if they encode any. -/
def text? (bs : Bytes) : Option String := String.fromUTF8? ⟨bs.toArray⟩

def xor (as bs : Bytes) : Bytes := as.zipWith (· ^^^ ·) bs

@[simp] theorem length_littleEndian (len n : Nat) : (littleEndian len n).length = len := by
  induction len generalizing n with
  | zero => rfl
  | succ len ih => simp [littleEndian, ih]

@[simp] theorem length_bigEndian (len n : Nat) : (bigEndian len n).length = len := by
  simp [bigEndian]

@[simp] theorem length_fit (len : Nat) (bs : Bytes) : (fit len bs).length = len := by
  simp [fit]

/-- How many numbers `len` bytes can spell. -/
def span : Nat → Nat
  | 0 => 1
  | len + 1 => 256 * span len

theorem ofLittleEndian_littleEndian (len n : Nat) :
    ofLittleEndian (littleEndian len n) = n % span len := by
  induction len generalizing n with
  | zero => exact (Nat.mod_one n).symm
  | succ len ih =>
    have hbyte : (UInt8.ofNat n).toNat = n % 256 := UInt8.toNat_ofNat'
    rw [littleEndian, ofLittleEndian, ih, hbyte, span, Nat.mod_mul]

theorem littleEndian_ofLittleEndian (bs : Bytes) :
    littleEndian bs.length (ofLittleEndian bs) = bs := by
  induction bs with
  | nil => rfl
  | cons b bs ih =>
    have hb : b.toNat < 256 := b.toNat_lt
    have hdiv : (b.toNat + 256 * ofLittleEndian bs) / 256 = ofLittleEndian bs := by omega
    simp only [List.length_cons, littleEndian, ofLittleEndian, hdiv, ih, List.cons.injEq, and_true]
    apply UInt8.toNat_inj.mp
    simp only [UInt8.toNat_ofNat']
    omega

theorem ofBigEndian_bigEndian (len n : Nat) :
    ofBigEndian (bigEndian len n) = n % span len := by
  simp [ofBigEndian, bigEndian, ofLittleEndian_littleEndian]

theorem bigEndian_ofBigEndian (bs : Bytes) :
    bigEndian bs.length (ofBigEndian bs) = bs := by
  have h := littleEndian_ofLittleEndian bs.reverse
  rw [List.length_reverse] at h
  rw [bigEndian, ofBigEndian, h, List.reverse_reverse]

abbrev Block (len : Nat) := { bs : Bytes // bs.length = len }

def block (len : Nat) (bs : Bytes) : Block len := ⟨fit len bs, length_fit len bs⟩

def block? (len : Nat) (bs : Bytes) : Option (Block len) :=
  if h : bs.length = len then some ⟨bs, h⟩ else none

theorem fit_of_length {len : Nat} {bs : Bytes} (h : bs.length = len) : fit len bs = bs := by
  rw [fit, ← h, List.take_left]

@[simp] theorem block_val {len : Nat} (b : Block len) : block len b.val = b :=
  Subtype.ext (fit_of_length b.property)

end Bytes
end Meshwork
