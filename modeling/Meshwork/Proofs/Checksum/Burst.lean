import Mathlib.Algebra.Group.Nat.Defs
import Meshwork.Checksum

/-!
# Bursts

The register of a checksum is linear in what is added to it, and a step of it can
be undone: whether the polynomial was added shows in the highest bit. So two
strings of bytes that lead to one register differ at its start by the very bytes
in which they differ, as long as these fit into the register.
-/

namespace Meshwork
set_option autoImplicit false

namespace Bytes

theorem ofLittleEndian_lt (bs : Bytes) : ofLittleEndian bs < 2 ^ (8 * bs.length) := by
  induction bs with
  | nil => exact Nat.one_pos
  | cons b bs ih =>
    have hb : b.toNat < 256 := b.toNat_lt
    have hpow : 2 ^ (8 * (b :: bs).length) = 256 * 2 ^ (8 * bs.length) := by
      rw [List.length_cons, Nat.mul_succ, Nat.pow_add, Nat.mul_comm]
    rw [hpow, ofLittleEndian]
    omega

/-- Strings of one length are equal if nothing is left when one is added to the other. -/
theorem eq_of_xor_eq_zero {bs cs : Bytes} (hlength : bs.length = cs.length)
    (h : ofLittleEndian (xor bs cs) = 0) : bs = cs := by
  induction bs generalizing cs with
  | nil => exact (List.eq_nil_of_length_eq_zero hlength.symm).symm
  | cons b bs ih =>
    cases cs with
    | nil => cases hlength
    | cons c cs =>
      have hsum : (b ^^^ c).toNat + 256 * ofLittleEndian (xor bs cs) = 0 := h
      have hbyte : b ^^^ c = 0 := UInt8.toNat_inj.mp (by rw [UInt8.toNat_zero]; omega)
      rw [UInt8.xor_eq_zero_iff.mp hbyte, ih (Nat.succ.inj hlength) (by omega)]

end Bytes

namespace Checksum

/-! ## The bits -/

theorem low_bit_iff (register : UInt32) : register &&& 1 = 1 ↔ register.toNat % 2 = 1 := by
  rw [← UInt32.toNat_inj, UInt32.toNat_and, UInt32.toNat_one, Nat.and_one_is_mod]

theorem bitStep_xor (r s : UInt32) : bitStep (r ^^^ s) = bitStep r ^^^ bitStep s := by
  unfold bitStep
  simp only [low_bit_iff, UInt32.toNat_xor, Nat.xor_mod_two_eq_one, UInt32.shiftRight_xor]
  by_cases hr : r.toNat % 2 = 1 <;> by_cases hs : s.toNat % 2 = 1
  · rw [if_neg (by simp [hr, hs]), if_pos hr, if_pos hs, UInt32.xor_assoc,
      UInt32.xor_comm polynomial, UInt32.xor_assoc, UInt32.xor_self, UInt32.xor_zero]
  · rw [if_pos (by simp [hr, hs]), if_pos hr, if_neg hs, UInt32.xor_assoc,
      UInt32.xor_assoc, UInt32.xor_comm polynomial]
  · rw [if_pos (by simp [hr, hs]), if_neg hr, if_pos hs, UInt32.xor_assoc]
  · rw [if_neg (by simp [hr, hs]), if_neg hr, if_neg hs]

/-- A step that leaves the highest bit clear has added no polynomial. -/
theorem eq_double_of_bitStep {register : UInt32} (h : (bitStep register).toNat < 2 ^ 31) :
    register.toNat = 2 * (bitStep register).toNat := by
  have hshift : (register >>> 1).toNat = register.toNat / 2 := by
    rw [UInt32.toNat_shiftRight]
    rfl
  have hbound : register.toNat < 2 ^ 32 := register.toNat_lt
  unfold bitStep at h ⊢
  simp only [low_bit_iff] at h ⊢
  split at h
  · -- the polynomial has its highest bit set, and a register that is shifted has not
    have hhigh : ((register >>> 1) ^^^ polynomial).toNat.testBit 31 = true := by
      rw [UInt32.toNat_xor, Nat.testBit_xor, hshift, Nat.testBit_lt_two_pow (by omega)]
      rfl
    rw [Nat.testBit_lt_two_pow h] at hhigh
    cases hhigh
  · rename_i hlow
    rw [if_neg hlow, hshift]
    omega

theorem bitSteps_xor (n : Nat) (r s : UInt32) :
    bitSteps n (r ^^^ s) = bitSteps n r ^^^ bitSteps n s := by
  induction n generalizing r s with
  | zero => rfl
  | succ n ih => rw [bitSteps, bitStep_xor, ih, bitSteps, bitSteps]

/-- Steps that leave as many high bits clear have only shifted. -/
theorem eq_shift_of_bitSteps {n : Nat} {register : UInt32}
    (h : 2 ^ n * (bitSteps n register).toNat < 2 ^ 32) :
    register.toNat = 2 ^ n * (bitSteps n register).toNat := by
  induction n generalizing register with
  | zero => exact (Nat.one_mul _).symm
  | succ n ih =>
    rw [bitSteps] at h ⊢
    rw [Nat.pow_succ', Nat.mul_assoc] at h ⊢
    have hrest : (bitStep register).toNat = _ := ih (by omega)
    rw [← hrest] at h ⊢
    exact eq_double_of_bitStep (by omega)

theorem bitSteps_inj {n : Nat} {r s : UInt32} (h : bitSteps n r = bitSteps n s) : r = s := by
  have hzero : bitSteps n (r ^^^ s) = 0 := by rw [bitSteps_xor, h, UInt32.xor_self]
  have hshift : (r ^^^ s).toNat = 2 ^ n * (bitSteps n (r ^^^ s)).toNat :=
    eq_shift_of_bitSteps (by rw [hzero, UInt32.toNat_zero, Nat.mul_zero]; decide)
  rw [hzero, UInt32.toNat_zero, Nat.mul_zero, ← UInt32.toNat_zero] at hshift
  exact UInt32.xor_eq_zero_iff.mp (UInt32.toNat_inj.mp hshift)

/-! ## The bytes -/

theorem xor_interchange (r s t u : UInt32) : r ^^^ s ^^^ (t ^^^ u) = r ^^^ t ^^^ (s ^^^ u) := by
  rw [UInt32.xor_assoc, ← UInt32.xor_assoc s, UInt32.xor_comm s t, UInt32.xor_assoc t,
    ← UInt32.xor_assoc r]

theorem byteStep_xor (r s : UInt32) (b c : UInt8) :
    byteStep r b ^^^ byteStep s c = byteStep (r ^^^ s) (b ^^^ c) := by
  unfold byteStep
  rw [← bitSteps_xor, UInt8.toUInt32_xor, xor_interchange]

/-- A byte in the low places and a number above it share no bit. -/
theorem xor_high {b n : Nat} (hb : b < 2 ^ 8) : b ^^^ 2 ^ 8 * n = b + 2 ^ 8 * n := by
  apply Nat.eq_of_testBit_eq
  intro i
  rw [Nat.add_comm, Nat.testBit_xor, Nat.testBit_two_pow_mul_add n hb, Nat.testBit_two_pow_mul]
  by_cases hi : i < 8
  · simp [hi, Nat.not_le_of_lt hi]
  · have hhigh : b < 2 ^ i :=
      Nat.lt_of_lt_of_le hb (Nat.pow_le_pow_right (by decide) (Nat.le_of_not_lt hi))
    simp [hi, Nat.le_of_not_lt hi, Nat.testBit_lt_two_pow hhigh]

/-- The register before a byte, if it is small after it. -/
theorem toNat_of_byteStep {register : UInt32} {b : UInt8}
    (h : (byteStep register b).toNat < 2 ^ 24) :
    register.toNat = b.toNat + 2 ^ 8 * (byteStep register b).toNat := by
  have hshift : (register ^^^ b.toUInt32).toNat = 2 ^ 8 * (byteStep register b).toNat :=
    eq_shift_of_bitSteps (by unfold byteStep at h; omega)
  have hback : register = b.toUInt32 ^^^ (register ^^^ b.toUInt32) := by
    rw [UInt32.xor_comm register, ← UInt32.xor_assoc, UInt32.xor_self, UInt32.zero_xor]
  have hnat := congrArg UInt32.toNat hback
  rw [UInt32.toNat_xor, hshift, UInt8.toNat_toUInt32, xor_high b.toNat_lt] at hnat
  exact hnat

/-- Registers that strings of at most four bytes lead to one and the same differ
by the bytes in which the strings differ. -/
theorem xor_of_foldl_eq {bs cs : Bytes} {r s : UInt32} (hlength : bs.length = cs.length)
    (hfour : bs.length ≤ 4) (h : bs.foldl byteStep r = cs.foldl byteStep s) :
    (r ^^^ s).toNat = Bytes.ofLittleEndian (Bytes.xor bs cs) := by
  induction bs generalizing cs r s with
  | nil =>
    obtain rfl := List.eq_nil_of_length_eq_zero hlength.symm
    have hsame : r = s := h
    rw [hsame, UInt32.xor_self]
    rfl
  | cons b bs ih =>
    cases cs with
    | nil => cases hlength
    | cons c cs =>
      have hlength : bs.length = cs.length := Nat.succ.inj hlength
      have hthree : bs.length ≤ 3 := Nat.le_of_succ_le_succ hfour
      have hrest := ih hlength (Nat.le_succ_of_le hthree) h
      rw [byteStep_xor] at hrest
      have hsmall : Bytes.ofLittleEndian (Bytes.xor bs cs) < 2 ^ 24 := by
        refine Nat.lt_of_lt_of_le (Bytes.ofLittleEndian_lt _) (Nat.pow_le_pow_right (by decide) ?_)
        rw [Bytes.xor, List.length_zipWith]
        omega
      rw [toNat_of_byteStep (by rw [hrest]; exact hsmall), hrest]
      rfl

theorem foldl_byteStep_inj {bs : Bytes} {r s : UInt32}
    (h : bs.foldl byteStep r = bs.foldl byteStep s) : r = s := by
  induction bs generalizing r s with
  | nil => exact h
  | cons b bs ih => exact (UInt32.xor_left_inj _).mp (bitSteps_inj (ih h))

/-- Strings that differ in a burst of at most four bytes have different checksums. -/
theorem eq_of_crc32_eq {before bs cs after : Bytes} (hlength : bs.length = cs.length)
    (hfour : bs.length ≤ 4) (h : crc32 (before ++ bs ++ after) = crc32 (before ++ cs ++ after)) :
    bs = cs := by
  have hfold := (UInt32.xor_left_inj _).mp h
  simp only [List.foldl_append] at hfold
  have hzero := xor_of_foldl_eq hlength hfour (foldl_byteStep_inj hfold)
  rw [UInt32.xor_self] at hzero
  exact Bytes.eq_of_xor_eq_zero hlength hzero.symm

end Checksum
end Meshwork
