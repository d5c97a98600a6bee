import Meshwork.Proofs.Checksum.Burst
import Meshwork.Proofs.Packet.Codec

/-!
# Damaged frames

The checksum of a frame is compared before anything in the frame is read. Damage
within four consecutive bytes changes either what the checksum is taken of or the
checksum, and never both alike.
-/

namespace Meshwork
set_option autoImplicit false

namespace Bytes

/-- Strings of one length that agree but for `len` bytes from `start` on. -/
structure AgreeOutside (start len : Nat) (bs cs : Bytes) : Prop where
  length : bs.length = cs.length
  outside : ∀ i, i < start ∨ start + len ≤ i → bs[i]? = cs[i]?

namespace AgreeOutside

variable {start len : Nat} {bs cs : Bytes}

theorem take_eq (h : AgreeOutside start len bs cs) : bs.take start = cs.take start := by
  apply List.ext_getElem?
  intro i
  rw [List.getElem?_take, List.getElem?_take]
  split
  · exact h.outside i (Or.inl ‹_›)
  · rfl

theorem drop_eq {n : Nat} (h : AgreeOutside start len bs cs) (hn : start + len ≤ n) :
    bs.drop n = cs.drop n := by
  apply List.ext_getElem?
  intro i
  rw [List.getElem?_drop, List.getElem?_drop]
  exact h.outside (n + i) (Or.inr (Nat.le_add_right_of_le hn))

theorem eq_of_slice_eq (h : AgreeOutside start len bs cs)
    (hslice : slice start len bs = slice start len cs) : bs = cs := by
  rw [← List.take_append_drop start bs, ← slice_append_drop start len bs, h.take_eq, hslice,
    h.drop_eq (Nat.le_refl _), slice_append_drop, List.take_append_drop]

end AgreeOutside

/-- The first `n` bytes around a part of them. -/
theorem take_eq_slice {start len n : Nat} (bs : Bytes) (h : start + len ≤ n) :
    bs.take n = bs.take start ++ slice start len bs ++ (bs.drop (start + len)).take
      (n - (start + len)) := by
  have hstart : n = start + (n - start) := by omega
  have hlen : n - start = len + (n - (start + len)) := by omega
  rw [hstart, List.take_add, hlen, List.take_add, List.append_assoc, List.drop_drop, ← hlen,
    ← hstart]
  rfl

end Bytes

namespace Packet
open Bytes

/-- The checksum that a frame carries. -/
def carriedChecksum (frame : Bytes) : UInt32 :=
  UInt32.ofNat (ofBigEndian (frame.drop (frame.length - checksumLength)))

/-- The checksum of what stands before it in a frame. -/
def actualChecksum (frame : Bytes) : UInt32 :=
  Checksum.crc32 (frame.take (frame.length - checksumLength))

/-- A frame of a possible length that carries a wrong checksum is refused as
corrupted, whatever its length byte says. -/
theorem decode_of_checksum_ne {frame : Bytes} (hmin : minFrameLength ≤ frame.length)
    (hmax : frame.length ≤ maxFrameLength) (h : carriedChecksum frame ≠ actualChecksum frame) :
    decode frame = .error (.corrupted (carriedChecksum frame) (actualChecksum frame)) := by
  have hlength : ¬(frame.length < minFrameLength ∨ maxFrameLength < frame.length) := by omega
  unfold decode
  rw [if_neg hlength]
  exact if_pos h

variable {p : Packet} {frame damaged : Bytes}

theorem length_of_encode (h : p.encode = .ok frame) :
    minFrameLength ≤ frame.length ∧ frame.length ≤ maxFrameLength := by
  obtain ⟨_, hpayload, rfl⟩ := encode_eq_ok_iff.mp h
  rw [length_sealBody, length_body]
  simp only [minFrameLength, maxPayload, maxFrameLength, headerLength, checksumLength] at *
  omega

theorem checksum_of_encode (h : p.encode = .ok frame) :
    carriedChecksum frame = actualChecksum frame := by
  obtain ⟨_, _, rfl⟩ := encode_eq_ok_iff.mp h
  have hcut : (sealBody p.body).length - checksumLength = p.body.length := by simp
  rw [carriedChecksum, actualChecksum, hcut, sealBody, List.drop_left, List.take_left,
    word_bigEndian]

/-- Damage before the checksum changes what the checksum is taken of. -/
theorem actualChecksum_ne {start : Nat} (hstart : start + 4 ≤ frame.length - checksumLength)
    (hne : damaged ≠ frame) (hburst : AgreeOutside start 4 frame damaged) :
    actualChecksum damaged ≠ actualChecksum frame := by
  intro hsame
  unfold actualChecksum at hsame
  rw [← hburst.length, take_eq_slice damaged hstart, take_eq_slice frame hstart, ← hburst.take_eq,
    ← hburst.drop_eq (Nat.le_refl _)] at hsame
  have hlength : (slice start 4 damaged).length = (slice start 4 frame).length := by
    rw [length_slice (by rw [← hburst.length]; omega), length_slice (by omega)]
  have hfour : (slice start 4 damaged).length ≤ 4 := List.length_take_le _ _
  exact hne (hburst.eq_of_slice_eq (Checksum.eq_of_crc32_eq hlength hfour hsame).symm).symm

/-- Damage in the checksum changes what it spells. -/
theorem carriedChecksum_ne (hmin : checksumLength ≤ frame.length) (hne : damaged ≠ frame)
    (hburst : AgreeOutside (frame.length - checksumLength) checksumLength frame damaged) :
    carriedChecksum damaged ≠ carriedChecksum frame := by
  intro hsame
  unfold carriedChecksum at hsame
  rw [← hburst.length] at hsame
  have hfour {bs : Bytes} (h : bs.length = frame.length) :
      (bs.drop (frame.length - checksumLength)).length = 4 := by
    rw [List.length_drop, h]
    exact Nat.sub_sub_self hmin
  have hdrop : damaged.drop (frame.length - checksumLength) =
      frame.drop (frame.length - checksumLength) := by
    rw [← bigEndian_word (hfour hburst.length.symm), hsame, bigEndian_word (hfour rfl)]
  apply hne
  rw [← List.take_append_drop (frame.length - checksumLength) damaged, hdrop, ← hburst.take_eq,
    List.take_append_drop]

/-- A frame that is damaged within four consecutive bytes before its checksum, or
within the checksum, is refused as corrupted: neither is it read as some packet
nor is its length found wrong. -/
theorem decode_damaged (hencode : p.encode = .ok frame) (hne : damaged ≠ frame)
    (hburst : (∃ start, start + 4 ≤ frame.length - checksumLength ∧
        AgreeOutside start 4 frame damaged) ∨
      AgreeOutside (frame.length - checksumLength) checksumLength frame damaged) :
    decode damaged =
      .error (.corrupted (carriedChecksum damaged) (actualChecksum damaged)) := by
  obtain ⟨hmin, hmax⟩ := length_of_encode hencode
  have hchecksum := checksum_of_encode hencode
  have hlength : frame.length = damaged.length := by
    rcases hburst with ⟨_, _, hagree⟩ | hagree
    · exact hagree.length
    · exact hagree.length
  apply decode_of_checksum_ne (hlength ▸ hmin) (hlength ▸ hmax)
  rcases hburst with ⟨start, hstart, hagree⟩ | hagree
  · -- the checksum is as it was, but of other bytes
    have hcarried : carriedChecksum damaged = carriedChecksum frame := by
      unfold carriedChecksum
      rw [← hlength, hagree.drop_eq hstart]
    rw [hcarried, hchecksum]
    exact (actualChecksum_ne hstart hne hagree).symm
  · have hactual : actualChecksum damaged = actualChecksum frame := by
      unfold actualChecksum
      rw [← hlength, hagree.take_eq]
    rw [hactual, ← hchecksum]
    have hfour : checksumLength ≤ minFrameLength := by decide
    exact carriedChecksum_ne (Nat.le_trans hfour hmin) hne hagree

/-- The sample ping with another length byte. -/
def sampleDamaged : Bytes := sampleFrame.set 22 9

theorem decode_damaged_length :
    samplePing.encode = .ok sampleFrame ∧ sampleDamaged ≠ sampleFrame ∧
      AgreeOutside 19 4 sampleFrame sampleDamaged ∧
      decode sampleDamaged =
        .error (.corrupted (carriedChecksum sampleDamaged) (actualChecksum sampleDamaged)) := by
  have hencode : samplePing.encode = .ok sampleFrame :=
    encode_eq_ok_iff.mpr ⟨by decide, by decide, by decide +kernel⟩
  have hagree : AgreeOutside 19 4 sampleFrame sampleDamaged := by
    refine ⟨rfl, ?_⟩
    intro i hi
    have hne : 22 ≠ i := by omega
    rw [sampleDamaged, List.getElem?_set_ne hne]
  refine ⟨hencode, by decide, hagree, ?_⟩
  exact decode_damaged hencode (by decide) (Or.inl ⟨19, by decide, hagree⟩)

end Packet
end Meshwork
