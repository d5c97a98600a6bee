import Meshwork.Packet.Frame

/-!
# Frames and packets, exactly

A frame that can be read is the writing of the packet it is read as, and of no
other packet. The length byte fixes where a frame ends, so no frame is the
beginning of another one.
-/

namespace Meshwork
set_option autoImplicit false

namespace Bytes

theorem slice_append_drop (start len : Nat) (bs : Bytes) :
    slice start len bs ++ bs.drop (start + len) = bs.drop start := by
  rw [slice, ← List.drop_drop]
  exact List.take_append_drop len (bs.drop start)

theorem getD_cons_drop {bs : Bytes} {i : Nat} (hi : i < bs.length) :
    [bs.getD i 0] ++ bs.drop (i + 1) = bs.drop i := by
  rw [List.drop_eq_getElem_cons hi, List.getD_eq_getElem?_getD, List.getElem?_eq_getElem hi]
  rfl

theorem length_slice {start len : Nat} {bs : Bytes} (h : start + len ≤ bs.length) :
    (slice start len bs).length = len := by
  rw [slice, List.length_take, List.length_drop]
  omega

/-- Four bytes and the word they spell. -/
theorem bigEndian_word {bs : Bytes} (h : bs.length = 4) :
    bigEndian 4 (UInt32.ofNat (ofBigEndian bs)).toNat = bs :=
  NodeId.toBytes_ofBytes bs h

theorem word_bigEndian (w : UInt32) : UInt32.ofNat (ofBigEndian (bigEndian 4 w.toNat)) = w :=
  congrArg NodeId.value (NodeId.ofBytes_toBytes ⟨w⟩)

end Bytes

theorem NodeId.toBytes_inj {a b : NodeId} (h : a.toBytes = b.toBytes) : a = b := by
  rw [← NodeId.ofBytes_toBytes a, h, NodeId.ofBytes_toBytes]

theorem Topic.eq_of_toByte_eq {a b : Topic} (ha : a.isCanonical = true)
    (hb : b.isCanonical = true) (h : a.toByte = b.toByte) : a = b := by
  have ha : ofByte a.toByte = a := by simpa [isCanonical] using ha
  have hb : ofByte b.toByte = b := by simpa [isCanonical] using hb
  rw [← ha, h, hb]

namespace Packet
open Bytes

@[simp] theorem length_body (p : Packet) : p.body.length = headerLength + p.payload.length := by
  simp only [body, List.length_append, NodeId.length_toBytes, length_bigEndian, List.length_cons,
    List.length_nil, headerLength]

@[simp] theorem length_sealBody (body : Bytes) :
    (sealBody body).length = body.length + checksumLength := by
  simp [sealBody, checksumLength]

/-- The header has a place of its own for every field, so nothing is lost in a body. -/
theorem body_inj {p q : Packet} (hp : p.topic.isCanonical = true) (hq : q.topic.isCanonical = true)
    (h : p.body = q.body) : p = q := by
  simp only [body, List.append_assoc] at h
  obtain ⟨source, h⟩ := List.append_inj h (by simp)
  obtain ⟨destination, h⟩ := List.append_inj h (by simp)
  obtain ⟨topic, h⟩ := List.append_inj h rfl
  obtain ⟨packetId, h⟩ := List.append_inj h (by simp)
  obtain ⟨hopCount, h⟩ := List.append_inj h rfl
  obtain ⟨lastHop, h⟩ := List.append_inj h (by simp)
  obtain ⟨nextHop, h⟩ := List.append_inj h (by simp)
  obtain ⟨_, payload⟩ := List.append_inj h rfl
  have packetId : p.packetId = q.packetId := by
    rw [← word_bigEndian p.packetId, packetId, word_bigEndian]
  cases p
  cases q
  simp only [List.cons.injEq, and_true] at topic hopCount
  simp only [mk.injEq]
  exact ⟨NodeId.toBytes_inj source, NodeId.toBytes_inj destination,
    Topic.eq_of_toByte_eq hp hq topic, packetId, hopCount, NodeId.toBytes_inj lastHop,
    NodeId.toBytes_inj nextHop, payload⟩

theorem announcedLength_append {start rest : Bytes} (h : headerLength ≤ start.length) :
    announcedLength (start ++ rest) = announcedLength start := by
  have h22 : 22 < start.length := h
  simp [announcedLength, List.getElem?_append_left h22]

theorem announcedLength_body {p : Packet} (h : p.payload.length ≤ maxPayload) :
    announcedLength p.body = p.payload.length := by
  have hbyte : p.body.getD 22 0 = UInt8.ofNat p.payload.length := by
    rw [body, List.append_assoc _ _ p.payload, List.getD_eq_getElem?_getD,
      List.getElem?_append_right (by simp)]
    simp
  rw [announcedLength, hbyte, UInt8.toNat_ofNat', Nat.mod_eq_of_lt]
  exact Nat.lt_of_le_of_lt h (by decide)

/-- Writing what was read at the places of a body gives the body again. -/
theorem body_ofBody {bs : Bytes} (h : bs.length = headerLength + announcedLength bs) :
    (ofBody bs).body = bs := by
  have hlen : 23 ≤ bs.length := by rw [h]; exact Nat.le_add_right _ _
  have hpayload : (bs.drop 23).length = announcedLength bs := by
    rw [List.length_drop, h]
    exact Nat.add_sub_cancel_left _ _
  have hid : bigEndian 4 (UInt32.ofNat (ofBigEndian (slice 9 4 bs))).toNat = slice 9 4 bs :=
    bigEndian_word (length_slice (by omega))
  have hnode (start : Nat) (hs : start + 4 ≤ bs.length) :
      (NodeId.ofBytes (slice start 4 bs)).toBytes = slice start 4 bs :=
    NodeId.toBytes_ofBytes _ (length_slice hs)
  simp only [body, ofBody, Topic.toByte_ofByte, hid, headerLength, hpayload, announcedLength,
    UInt8.ofNat_toNat, List.append_assoc]
  rw [hnode 0 (by omega), hnode 4 (by omega), hnode 14 (by omega), hnode 18 (by omega),
    getD_cons_drop (i := 22) (by omega), slice_append_drop 18 4, slice_append_drop 14 4,
    getD_cons_drop (i := 13) (by omega), slice_append_drop 9 4,
    getD_cons_drop (i := 8) (by omega), slice_append_drop 4 4, slice_append_drop 0 4]
  rfl

theorem encode_eq_ok_iff {p : Packet} {frame : Bytes} :
    p.encode = .ok frame ↔
      p.topic.isCanonical = true ∧ p.payload.length ≤ maxPayload ∧ frame = sealBody p.body := by
  unfold encode check
  by_cases hc : p.topic.isCanonical = true
  · by_cases hp : maxPayload < p.payload.length
    · simp [hc, hp, Nat.not_le_of_lt hp]
    · simp [hc, hp, Nat.le_of_not_lt hp, eq_comm]
  · simp [hc]

theorem encode_eq_error_iff {p : Packet} :
    (∃ e, p.encode = .error e) ↔ p.topic.isCanonical = false ∨ maxPayload < p.payload.length := by
  unfold encode check
  by_cases hc : p.topic.isCanonical = true
  · by_cases hp : maxPayload < p.payload.length <;> simp [hc, hp]
  · simp [hc]

/-- A frame splits into a body and four bytes that spell a word. -/
theorem exists_body (frame : Bytes) (h : checksumLength ≤ frame.length) :
    ∃ body word, frame = body ++ bigEndian 4 (UInt32.toNat word) ∧
      frame.take (frame.length - checksumLength) = body ∧
      UInt32.ofNat (ofBigEndian (frame.drop (frame.length - checksumLength))) = word := by
  refine ⟨_, _, ?_, rfl, rfl⟩
  rw [bigEndian_word, List.take_append_drop]
  rw [List.length_drop, checksumLength]
  exact Nat.sub_sub_self h

/-- The frames that can be read are the bodies of the announced length with
their checksums behind them. -/
theorem decode_eq_ok_iff {frame : Bytes} {p : Packet} :
    decode frame = .ok p ↔
      ∃ body, frame = sealBody body ∧ body.length ≤ maxFrameLength - checksumLength ∧
        body.length = headerLength + announcedLength body ∧ p = ofBody body := by
  constructor
  · intro h
    unfold decode at h
    split at h
    · cases h
    rename_i hlength
    obtain ⟨body, word, hframe, hbody, hword⟩ := exists_body frame
      (by simp only [minFrameLength, headerLength, checksumLength] at *; omega)
    simp only [hbody, hword] at h
    split at h
    · cases h
    rename_i hsum
    split at h
    · cases h
    rename_i hannounced
    have hsum : word = Checksum.crc32 body := Decidable.not_not.mp hsum
    have hannounced := Decidable.not_not.mp hannounced
    cases h
    rw [hsum] at hframe
    refine ⟨body, hframe, ?_, hannounced, rfl⟩
    have hlen := congrArg List.length hframe
    simp only [List.length_append, length_bigEndian] at hlen
    simp only [maxFrameLength, checksumLength] at *
    omega
  · rintro ⟨body, rfl, hmax, hannounced, rfl⟩
    have hcut : (sealBody body).length - checksumLength = body.length := by simp
    have hlength : ¬((sealBody body).length < minFrameLength ∨
        maxFrameLength < (sealBody body).length) := by
      simp only [length_sealBody, minFrameLength, maxFrameLength, headerLength,
        checksumLength] at *
      omega
    unfold decode
    rw [if_neg hlength, hcut, sealBody, List.take_left, List.drop_left, word_bigEndian]
    simp [hannounced]

/-- The end of a frame stands in its header. -/
theorem length_of_decode {frame : Bytes} {p : Packet} (h : decode frame = .ok p) :
    headerLength ≤ frame.length ∧ frame.length = minFrameLength + announcedLength frame := by
  obtain ⟨body, rfl, _, hannounced, _⟩ := decode_eq_ok_iff.mp h
  have hbody : headerLength ≤ body.length := by rw [hannounced]; exact Nat.le_add_right _ _
  rw [length_sealBody]
  refine ⟨Nat.le_add_right_of_le hbody, ?_⟩
  rw [sealBody, announcedLength_append hbody, hannounced, minFrameLength]
  omega

theorem decode_eq_ok_iff_encode {frame : Bytes} {p : Packet} :
    decode frame = .ok p ↔ p.encode = .ok frame := by
  rw [decode_eq_ok_iff, encode_eq_ok_iff]
  constructor
  · rintro ⟨body, rfl, hmax, hannounced, rfl⟩
    refine ⟨Topic.isCanonical_ofByte _, ?_, by rw [body_ofBody hannounced]⟩
    change (body.drop headerLength).length ≤ maxPayload
    rw [List.length_drop]
    simp only [maxPayload, minFrameLength, maxFrameLength, headerLength, checksumLength] at *
    omega
  · rintro ⟨hcanonical, hpayload, rfl⟩
    have hannounced : p.body.length = headerLength + announcedLength p.body := by
      rw [length_body, announcedLength_body hpayload]
    refine ⟨p.body, rfl, ?_, hannounced, ?_⟩
    · rw [length_body]
      simp only [maxPayload, minFrameLength, maxFrameLength, headerLength, checksumLength] at *
      omega
    · exact (body_inj (Topic.isCanonical_ofByte _) hcanonical (body_ofBody hannounced)).symm

theorem eq_of_decode_prefix {frame other : Bytes} {p q : Packet} (hp : decode frame = .ok p)
    (hq : decode other = .ok q) (h : frame <+: other) : frame = other := by
  obtain ⟨hheader, hframe⟩ := length_of_decode hp
  obtain ⟨_, hother⟩ := length_of_decode hq
  obtain ⟨rest, rfl⟩ := h
  rw [announcedLength_append hheader, ← hframe, List.length_append] at hother
  rw [List.eq_nil_of_length_eq_zero (by omega : rest.length = 0), List.append_nil]

/-- Reading and writing are inverse to each other on every frame and every
packet: a packet has a frame unless its topic is not canonical or its payload
longer than 229 bytes, and what can be read is the one frame of one packet, of
which no shorter or longer frame is a part. -/
theorem decode_inverse_of_encode :
    (∀ (frame : Bytes) (p : Packet), decode frame = .ok p ↔ p.encode = .ok frame) ∧
    (∀ p : Packet, (∃ e, p.encode = .error e) ↔
      p.topic.isCanonical = false ∨ 229 < p.payload.length) ∧
    (∀ (frame : Bytes) (p q : Packet), p.encode = .ok frame → q.encode = .ok frame → p = q) ∧
    (∀ frame : Bytes, (∃ p, decode frame = .ok p) ↔ ∃ p : Packet, p.encode = .ok frame) ∧
    (∀ (frame other : Bytes) (p : Packet), decode frame = .ok p → decode other = .ok p →
      frame = other) ∧
    (∀ (frame other : Bytes) (p q : Packet), decode frame = .ok p → decode other = .ok q →
      frame <+: other → frame = other) := by
  refine ⟨fun _ _ => decode_eq_ok_iff_encode, fun _ => encode_eq_error_iff, ?_, ?_, ?_, ?_⟩
  · intro frame p q hp hq
    rw [← decode_eq_ok_iff_encode] at hp hq
    exact Except.ok.inj (hp.symm.trans hq)
  · intro frame
    exact exists_congr fun _ => decode_eq_ok_iff_encode
  · intro frame other p hp hq
    rw [decode_eq_ok_iff_encode] at hp hq
    exact Except.ok.inj (hp.symm.trans hq)
  · intro frame other p q hp hq h
    exact eq_of_decode_prefix hp hq h

/-- A ping with a payload of two bytes, and its frame. -/
def samplePing : Packet := .fresh ⟨0x0102⟩ ⟨0x0A0B⟩ .ping [7, 9] 0xDEADBEEF

def sampleFrame : Bytes :=
  [0, 0, 1, 2, 0, 0, 10, 11, 1, 222, 173, 190, 239, 0, 0, 0, 1, 2, 255, 255, 255, 255, 2, 7, 9,
   189, 225, 252, 136]

theorem decode_inverse_of_encode_ping :
    samplePing.encode = .ok sampleFrame ∧ decode sampleFrame = .ok samplePing := by
  have hframe : samplePing.encode = .ok sampleFrame :=
    encode_eq_ok_iff.mpr ⟨by decide, by decide, by decide +kernel⟩
  exact ⟨hframe, (decode_inverse_of_encode.1 sampleFrame samplePing).mpr hframe⟩

end Packet
end Meshwork
