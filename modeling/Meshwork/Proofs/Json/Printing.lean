import Meshwork.Proofs.Json.Reading

/-!
# Printed values as text

Bytes below 128 are characters of their own, so a value in which nothing else stands is
printed as a text, and the text holds the bytes that were printed.
-/

namespace Meshwork
set_option autoImplicit false

namespace Bytes

variable {bs cs : Bytes} {b : UInt8}

/-! ## Plain bytes -/

def IsAscii (bs : Bytes) : Prop := ∀ b ∈ bs, b < 128

instance (bs : Bytes) : Decidable (IsAscii bs) := List.decidableBAll (· < 128) bs

theorem isAscii_cons (hb : b < 128) (hbs : IsAscii bs) : IsAscii (b :: bs) := by
  intro c hc
  rcases List.mem_cons.mp hc with rfl | hc
  · exact hb
  · exact hbs c hc

theorem isAscii_append (hbs : IsAscii bs) (hcs : IsAscii cs) : IsAscii (bs ++ cs) := by
  intro c hc
  rcases List.mem_append.mp hc with hc | hc
  · exact hbs c hc
  · exact hcs c hc

theorem lt_of_isDigit (h : isDigit b = true) : b < 128 := by
  unfold isDigit at h
  rw [Bool.and_eq_true, decide_eq_true_iff, decide_eq_true_iff] at h
  exact UInt8.lt_of_le_of_lt h.2 (by decide)

theorem isAscii_decimal (n : Nat) : IsAscii (decimal n) :=
  fun _ hb => lt_of_isDigit (isDigit_of_mem_decimal hb)

/-! ## Bytes as text -/

theorem toList_loop (a : ByteArray) (i : Nat) (read : Bytes) :
    ByteArray.toList.loop a i read = read.reverse ++ a.data.toList.drop i := by
  induction i, read using ByteArray.toList.loop.induct a with
  | case1 i read hmore ih =>
    have hnext : a.get! i = a.data.toList[i] := getElem!_pos a.data i hmore
    rw [ByteArray.toList.loop, if_pos hmore, ih, hnext, List.reverse_cons, List.append_assoc,
      List.singleton_append, List.getElem_cons_drop]
  | case2 i read hdone =>
    have hnone : a.data.toList.drop i = [] := by
      rw [List.drop_eq_nil_iff, Array.length_toList]
      exact Nat.le_of_not_lt hdone
    rw [ByteArray.toList.loop, if_neg hdone, hnone, List.append_nil]

theorem toList_eq_data (a : ByteArray) : a.toList = a.data.toList := toList_loop a 0 []

/-- A text that bytes encode is written with these bytes. -/
theorem ofText_of_text? {s : String} (h : bs.text? = some s) : ofText s = bs := by
  unfold text? String.fromUTF8? at h
  split at h
  · rename_i hvalid
    rw [← Option.some.inj h]
    unfold ofText
    exact toList_eq_data _
  · cases h

theorem utf8EncodeChar_ofUInt8 (h : b < 128) :
    String.utf8EncodeChar (Char.ofUInt8 b) = [b] := by
  have hsize : (Char.ofUInt8 b).utf8Size = 1 := by
    rw [Char.utf8Size_eq_one_iff]
    have hvalue : (Char.ofUInt8 b).val.toNat = b.toNat := UInt8.toNat_toUInt32 b
    have hlt : b.toNat < 128 := UInt8.lt_iff_toNat_lt.mp h
    rw [UInt32.le_iff_toNat_le, hvalue]
    change b.toNat ≤ 127
    omega
  have hbyte : (Char.ofUInt8 b).val.toUInt8 = b := UInt8.toUInt8_toUInt32 b
  rw [String.utf8EncodeChar_eq_singleton hsize, hbyte]

theorem isValidUTF8_of_isAscii (h : IsAscii bs) : ByteArray.IsValidUTF8 ⟨bs.toArray⟩ := by
  have hencode : (bs.map Char.ofUInt8).flatMap String.utf8EncodeChar = bs := by
    induction bs with
    | nil => rfl
    | cons b bs ih =>
      rw [List.map_cons, List.flatMap_cons, utf8EncodeChar_ofUInt8 (h b List.mem_cons_self),
        ih fun c hc => h c (List.mem_cons_of_mem b hc)]
      rfl
  refine ⟨bs.map Char.ofUInt8, ?_⟩
  apply ByteArray.ext
  unfold List.utf8Encode
  rw [hencode, List.data_toByteArray]

theorem ofText_getD_text? (h : IsAscii bs) : ofText (bs.text?.getD "") = bs := by
  have htext : bs.text? = some (String.fromUTF8 ⟨bs.toArray⟩ (isValidUTF8_of_isAscii h)) :=
    dif_pos (isValidUTF8_of_isAscii h)
  have hsame := ofText_of_text? htext
  rw [htext]
  exact hsame

end Bytes

namespace Json

open Bytes

/-! ## Values -/

mutual

/-- No other bytes stand in the names, strings and spelled numbers of a value. -/
def IsPlain : Json → Prop
  | decimal spelling => IsAscii spelling
  | string content => IsAscii content
  | array items => AllPlain items
  | object members => MembersPlain members
  | null => True
  | bool _ => True
  | integer _ => True

def AllPlain : List Json → Prop
  | [] => True
  | v :: vs => v.IsPlain ∧ AllPlain vs

def MembersPlain : List (Bytes × Json) → Prop
  | [] => True
  | (name, v) :: ms => IsAscii name ∧ v.IsPlain ∧ MembersPlain ms

end

theorem allPlain_map {α : Type} {f : α → Json} {l : List α} (h : ∀ a ∈ l, (f a).IsPlain) :
    AllPlain (l.map f) := by
  induction l with
  | nil => trivial
  | cons a l ih => exact ⟨h a List.mem_cons_self, ih fun b hb => h b (List.mem_cons_of_mem a hb)⟩

theorem membersPlain_of_forall {ms : List (Bytes × Json)}
    (h : ∀ m ∈ ms, IsAscii m.1 ∧ m.2.IsPlain) : MembersPlain ms := by
  induction ms with
  | nil => trivial
  | cons m ms ih =>
    obtain ⟨hname, hvalue⟩ := h m List.mem_cons_self
    exact ⟨hname, hvalue, ih fun other hother => h other (List.mem_cons_of_mem m hother)⟩

theorem isPlain_ofBytes (bs : Bytes) : (ofBytes bs).IsPlain :=
  allPlain_map fun _ _ => trivial

theorem isAscii_escaped {b : UInt8} (h : b < 128) : IsAscii (escaped b) := by
  have hall : ∀ n < 128, IsAscii (escaped (UInt8.ofNat n)) := by decide
  have hescaped := hall b.toNat (UInt8.lt_iff_toNat_lt.mp h)
  rw [UInt8.ofNat_toNat] at hescaped
  exact hescaped

theorem isAscii_quoted {content : Bytes} (h : IsAscii content) : IsAscii (quoted content) := by
  refine isAscii_append (isAscii_cons (by decide) fun c hc => ?_) (by decide)
  obtain ⟨b, hb, hpiece⟩ := List.mem_flatMap.mp hc
  exact isAscii_escaped (h b hb) c hpiece

theorem isAscii_integerText (n : Int) : IsAscii (integerText n) := by
  cases n with
  | ofNat n => exact isAscii_decimal n
  | negSucc n => exact isAscii_cons (by decide) (isAscii_decimal (n + 1))

mutual

theorem isAscii_render (j : Json) (h : j.IsPlain) : IsAscii j.render := by
  match j, h with
  | .null, _ => rw [render, text_null]; decide
  | .bool true, _ => rw [render, text_true]; decide
  | .bool false, _ => rw [render, text_false]; decide
  | .integer n, _ => exact isAscii_integerText n
  | .decimal spelling, h => exact h
  | .string content, h => exact isAscii_quoted h
  | .array [], _ => decide
  | .object [], _ => decide
  | .array (v :: vs), h =>
    obtain ⟨hfirst, hothers⟩ := h
    rw [render]
    exact isAscii_append (isAscii_cons (by decide) (isAscii_render v hfirst))
      (isAscii_renderItems vs hothers)
  | .object ((name, v) :: ms), h =>
    obtain ⟨hname, hfirst, hothers⟩ := h
    rw [render]
    exact isAscii_append (isAscii_append (isAscii_cons (by decide) (isAscii_quoted hname))
      (isAscii_cons (by decide) (isAscii_render v hfirst))) (isAscii_renderMembers ms hothers)

theorem isAscii_renderItems (vs : List Json) (h : AllPlain vs) : IsAscii (renderItems vs) := by
  match vs, h with
  | [], _ => decide
  | v :: vs, h =>
    obtain ⟨hnext, hothers⟩ := h
    rw [renderItems]
    exact isAscii_append (isAscii_cons (by decide) (isAscii_render v hnext))
      (isAscii_renderItems vs hothers)

theorem isAscii_renderMembers (ms : List (Bytes × Json)) (h : MembersPlain ms) :
    IsAscii (renderMembers ms) := by
  match ms, h with
  | [], _ => decide
  | (name, v) :: ms, h =>
    obtain ⟨hname, hnext, hothers⟩ := h
    rw [renderMembers]
    exact isAscii_append (isAscii_append (isAscii_cons (by decide) (isAscii_quoted hname))
      (isAscii_cons (by decide) (isAscii_render v hnext))) (isAscii_renderMembers ms hothers)

end

/-- The text of a value is read as the value. -/
theorem parse_text {j : Json} (hwhole : j.IsWhole) (hplain : j.IsPlain) :
    parse? (ofText j.text) = some j := by
  unfold text
  rw [ofText_getD_text? (isAscii_render j hplain)]
  exact parse_render hwhole

end Json
end Meshwork
