import Meshwork.Crypto.Provider

/-!
# Opening undoes sealing

A provider is faithful when it seals every text, with a fixed overhead, and gives
back what it has sealed. The software provider is: counter mode adds the same
stream twice, and the tag of a text that was not touched is the same again.
-/

namespace Meshwork
set_option autoImplicit false

namespace Bytes

theorem length_xor (as bs : Bytes) : (xor as bs).length = min as.length bs.length :=
  List.length_zipWith

theorem xor_xor {as bs : Bytes} (h : as.length ≤ bs.length) : xor (xor as bs) bs = as := by
  induction as generalizing bs with
  | nil => rfl
  | cons a as ih =>
    cases bs with
    | nil => exact absurd h (Nat.not_succ_le_zero _)
    | cons b bs =>
      change (a ^^^ b ^^^ b) :: xor (xor as bs) bs = a :: as
      rw [ih (Nat.le_of_succ_le_succ h), UInt8.xor_assoc, UInt8.xor_self, UInt8.xor_zero]

theorem length_of_mem_cut {size count : Nat} {bs piece : Bytes} (h : bs.length = size * count)
    (hpiece : piece ∈ cut size count bs) : piece.length = size := by
  induction count generalizing bs with
  | zero => cases hpiece
  | succ count ih =>
    rw [Nat.mul_succ] at h
    rcases List.mem_cons.mp hpiece with rfl | hrest
    · rw [List.length_take]
      omega
    · exact ih (by rw [List.length_drop]; omega) hrest

theorem length_cut (size count : Nat) (bs : Bytes) : (cut size count bs).length = count := by
  induction count generalizing bs with
  | zero => rfl
  | succ count ih => exact congrArg Nat.succ (ih _)

end Bytes

namespace Aes

/-! ## The length of a block -/

theorem length_of_mem_extend {count index : Nat} {roundConstant : UInt8} {recent : List Bytes}
    {word : Bytes} (hwords : ∀ w ∈ recent, w.length = 4) (hmany : 8 ≤ recent.length)
    (h : word ∈ extend count index roundConstant recent) : word.length = 4 := by
  induction count generalizing index roundConstant recent with
  | zero => cases h
  | succ count ih =>
    have hrecent : ∀ i, i < 8 → (recent.getD i []).length = 4 := by
      intro i hi
      have hi : i < recent.length := Nat.lt_of_lt_of_le hi hmany
      rw [List.getD_eq_getElem?_getD, List.getElem?_eq_getElem hi]
      exact hwords _ (List.getElem_mem hi)
    have hlast : (recent.getD 0 []).length = 4 := hrecent 0 (by omega)
    unfold extend at h
    simp only at h
    generalize hturned : (if index % 8 = 0 then _ else _ : Bytes) = turned at h
    have hlength : turned.length = 4 := by
      rw [← hturned]
      split
      · rw [Bytes.length_xor, List.length_map, List.length_append, List.length_drop,
          List.length_take, hlast]
        rfl
      · split
        · rw [List.length_map, hlast]
        · exact hlast
    have hword : (Bytes.xor (recent.getD 7 []) turned).length = 4 := by
      rw [Bytes.length_xor, hrecent 7 (by omega), hlength]
      rfl
    rcases List.mem_cons.mp h with rfl | hrest
    · exact hword
    · refine ih ?_ ?_ hrest
      · intro w hw
        rcases List.mem_cons.mp hw with rfl | hw
        · exact hword
        · exact hwords w (List.mem_of_mem_take hw)
      · rw [List.length_cons, List.length_take]
        omega

theorem length_extend (count index : Nat) (roundConstant : UInt8) (recent : List Bytes) :
    (extend count index roundConstant recent).length = count := by
  induction count generalizing index roundConstant recent with
  | zero => rfl
  | succ count ih => exact congrArg Nat.succ (ih _ _ _)

theorem size_of_mem_roundKeys {key : Bytes} (hkey : key.length = 32) {k : Array UInt8}
    (h : k ∈ roundKeys key) : k.size = 16 := by
  unfold roundKeys Bytes.chunks at h
  simp only [hkey] at h
  obtain ⟨piece, hpiece, rfl⟩ := List.mem_map.mp h
  rw [List.size_toArray]
  have hfirst : ∀ w ∈ Bytes.cut 4 8 key, w.length = 4 :=
    fun w hw => Bytes.length_of_mem_cut hkey hw
  generalize hall : Bytes.cut 4 8 key ++ extend 52 8 1 (Bytes.cut 4 8 key).reverse = all at hpiece
  have hwords : ∀ w ∈ all, w.length = 4 := by
    rw [← hall]
    intro w hw
    rcases List.mem_append.mp hw with hw | hw
    · exact hfirst w hw
    · refine length_of_mem_extend (fun w hw => hfirst w (List.mem_reverse.mp hw)) ?_ hw
      exact Nat.le_of_eq (by rw [List.length_reverse, Bytes.length_cut])
  have hcount : all.length = 60 := by
    rw [← hall, List.length_append, Bytes.length_cut, length_extend]
  have hflat : all.flatten.length = 240 := by
    rw [List.length_flatten, List.map_congr_left hwords, List.map_const', hcount]
    rfl
  rw [hflat] at hpiece
  exact Bytes.length_of_mem_cut hflat hpiece

theorem size_addKey {s k : Array UInt8} (hs : s.size = 16) (hk : k.size = 16) :
    (addKey s k).size = 16 := by
  rw [addKey, Array.size_zipWith, hs, hk, Nat.min_self]

theorem size_rounds {keys : List (Array UInt8)} (hkeys : ∀ k ∈ keys, k.size = 16)
    {s : Array UInt8} (hs : s.size = 16) : (rounds keys s).size = 16 := by
  induction keys generalizing s with
  | nil => exact hs
  | cons k ks ih =>
    have hk : k.size = 16 := hkeys k List.mem_cons_self
    cases ks with
    | nil => exact size_addKey Array.size_ofFn hk
    | cons next rest =>
      apply ih
      · intro key hkey
        exact hkeys key (List.mem_cons_of_mem k hkey)
      · exact size_addKey Array.size_ofFn hk

theorem length_encipher {key block : Bytes} (hkey : key.length = 32) (hblock : block.length = 16) :
    (encipher (roundKeys key) block).length = 16 := by
  have hsizes : ∀ k ∈ roundKeys key, k.size = 16 := fun k hk => size_of_mem_roundKeys hkey hk
  generalize roundKeys key = keys at hsizes ⊢
  cases keys with
  | nil => exact hblock
  | cons k ks =>
    change (rounds ks (addKey block.toArray k)).toList.length = 16
    rw [Array.length_toList]
    apply size_rounds
    · intro key hkey
      exact hsizes key (List.mem_cons_of_mem k hkey)
    · exact size_addKey (List.size_toArray.trans hblock) (hsizes k List.mem_cons_self)

end Aes

namespace Gcm

/-! ## The stream -/

/-- The stream over pieces of 16 bytes, the first of which has this number. -/
def stream (block : Nat → Bytes) (count first : Nat) (text : Bytes) : Bytes :=
  ((Bytes.cut 16 count text).zipIdx first).flatMap fun (piece, i) => Bytes.xor piece (block i)

variable {block : Nat → Bytes} {count first : Nat} {text : Bytes}

theorem stream_succ : stream block (count + 1) first text =
    Bytes.xor (text.take 16) (block first) ++ stream block count (first + 1) (text.drop 16) :=
  rfl

theorem length_stream (hblock : ∀ i, (block i).length = 16) (h : text.length ≤ 16 * count) :
    (stream block count first text).length = text.length := by
  induction count generalizing first text with
  | zero =>
    rw [Nat.le_zero.mp h]
    rfl
  | succ count ih =>
    have hrest : (text.drop 16).length ≤ 16 * count := by
      rw [List.length_drop]
      omega
    rw [stream_succ, List.length_append, Bytes.length_xor, hblock, ih hrest, List.length_take,
      List.length_drop]
    omega

/-- The same stream twice leaves the text. -/
theorem stream_stream (hblock : ∀ i, (block i).length = 16) (h : text.length ≤ 16 * count) :
    stream block count first (stream block count first text) = text := by
  induction count generalizing first text with
  | zero =>
    rw [List.eq_nil_of_length_eq_zero (Nat.le_zero.mp h)]
    rfl
  | succ count ih =>
    have hrest : (text.drop 16).length ≤ 16 * count := by
      rw [List.length_drop]
      omega
    have hcut : ∀ piece rest : Bytes, (16 ≤ piece.length ∨ rest = []) → piece.length ≤ 16 →
        (piece ++ rest).take 16 = piece ∧ (piece ++ rest).drop 16 = rest := by
      intro piece rest hfull hlength
      rcases hfull with hfull | rfl
      · have hlength : piece.length = 16 := Nat.le_antisymm hlength hfull
        exact ⟨List.take_left' hlength, List.drop_left' hlength⟩
      · rw [List.append_nil]
        exact ⟨List.take_of_length_le hlength, List.drop_of_length_le hlength⟩
    have hpiece : (Bytes.xor (text.take 16) (block first)).length = (text.take 16).length := by
      rw [Bytes.length_xor, hblock, List.length_take]
      omega
    have hfull : 16 ≤ (Bytes.xor (text.take 16) (block first)).length ∨
        stream block count (first + 1) (text.drop 16) = [] := by
      rw [hpiece, List.length_take, ← List.length_eq_zero_iff, length_stream hblock hrest,
        List.length_drop]
      omega
    have hshort : (Bytes.xor (text.take 16) (block first)).length ≤ 16 := by
      rw [hpiece]
      exact List.length_take_le 16 text
    have hsplit := hcut _ _ hfull hshort
    rw [stream_succ, stream_succ, hsplit.1, hsplit.2, ih hrest, Bytes.xor_xor,
      List.take_append_drop]
    rw [hblock]
    exact List.length_take_le 16 text

/-! ## The cipher -/

variable {key nonce aad plain : Bytes}

theorem length_counterBlock (hnonce : nonce.length = nonceLength) (n : Nat) :
    (counterBlock nonce n).length = 16 := by
  rw [counterBlock, List.length_append, hnonce, Bytes.length_bigEndian]
  rfl

theorem applyStream_eq (keys : List (Array UInt8)) (nonce text : Bytes) :
    applyStream keys nonce text =
      stream (fun i => Aes.encipher keys (counterBlock nonce (i + 2))) ((text.length + 15) / 16) 0
        text :=
  rfl

theorem length_tag (hkey : key.length = 32) (hnonce : nonce.length = nonceLength)
    (aad text : Bytes) : (tag (Aes.roundKeys key) nonce aad text).length = tagLength := by
  rw [tag, Bytes.length_xor, Aes.length_encipher hkey (length_counterBlock hnonce 1),
    Element.toBytes, List.length_append, Bytes.length_bigEndian, Bytes.length_bigEndian]
  rfl

theorem decrypt_encrypt (hkey : key.length = 32) (hnonce : nonce.length = nonceLength)
    (aad plain : Bytes) :
    (encrypt key nonce aad plain).length = plain.length + tagLength ∧
      decrypt key nonce aad (encrypt key nonce aad plain) = some plain := by
  have hblock : ∀ i, (Aes.encipher (Aes.roundKeys key) (counterBlock nonce (i + 2))).length = 16 :=
    fun i => Aes.length_encipher hkey (length_counterBlock hnonce _)
  have hcount : plain.length ≤ 16 * ((plain.length + 15) / 16) := by omega
  have hlength : (applyStream (Aes.roundKeys key) nonce plain).length = plain.length :=
    length_stream hblock hcount
  have htext : applyStream (Aes.roundKeys key) nonce (applyStream (Aes.roundKeys key) nonce plain) =
      plain := by
    rw [applyStream_eq, hlength]
    exact stream_stream hblock hcount
  have htag := length_tag hkey hnonce aad (applyStream (Aes.roundKeys key) nonce plain)
  unfold encrypt decrypt
  simp only
  generalize applyStream (Aes.roundKeys key) nonce plain = text at hlength htext htag ⊢
  have hsum : (text ++ tag (Aes.roundKeys key) nonce aad text).length =
      text.length + tagLength := by
    rw [List.length_append, htag]
  refine ⟨hsum.trans (by rw [hlength]), ?_⟩
  rw [hsum, Nat.add_sub_cancel, List.take_left, List.drop_left, if_pos rfl, htext]

end Gcm

namespace CryptoProvider

/-- Every text can be sealed, and what has been sealed opens again. -/
structure IsFaithful (provider : CryptoProvider) : Prop where
  seals : ∀ key aad plain draws, ∃ blob after,
    provider.sealText key aad plain draws = (.ok blob, after) ∧
      blob.length = plain.length + sealOverhead ∧
      provider.unsealText key aad blob = .ok plain

/-- Every text can be sealed, in so many bytes more. -/
def SealsAll (provider : CryptoProvider) : Prop :=
  ∀ key aad plain draws, ∃ blob after,
    provider.sealText key aad plain draws = (.ok blob, after) ∧
      blob.length = plain.length + sealOverhead

theorem IsFaithful.sealsAll {provider : CryptoProvider} (h : provider.IsFaithful) :
    provider.SealsAll := by
  intro key aad plain draws
  obtain ⟨blob, after, hseal, hlength, _⟩ := h.seals key aad plain draws
  exact ⟨blob, after, hseal, hlength⟩

theorem software_isFaithful : software.IsFaithful where
  seals key aad plain draws := by
    have hnonce : (draws.take Gcm.nonceLength).1.length = Gcm.nonceLength := draws.length_take _
    generalize hdrawn : draws.take Gcm.nonceLength = drawn at hnonce
    obtain ⟨hlength, hopens⟩ := Gcm.decrypt_encrypt key.length_toBytes hnonce aad plain
    refine ⟨drawn.1 ++ Gcm.encrypt key.toBytes drawn.1 aad plain, drawn.2, ?_, ?_, ?_⟩
    · change softwareSeal key aad plain draws = _
      rw [softwareSeal, hdrawn]
    · rw [List.length_append, hnonce, hlength, sealOverhead]
      omega
    · change softwareUnseal key aad _ = _
      have hlong : ¬(drawn.1 ++ Gcm.encrypt key.toBytes drawn.1 aad plain).length <
          sealOverhead := by
        rw [List.length_append, hnonce, hlength, sealOverhead]
        omega
      rw [softwareUnseal, if_neg hlong, List.take_left' hnonce, List.drop_left' hnonce, hopens]

end CryptoProvider
end Meshwork
