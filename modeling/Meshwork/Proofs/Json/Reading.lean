import Meshwork.Json.Parser
import Meshwork.Json.Printer

/-!
# Reading what was written

A value that is written without blanks is read again as it was, whatever follows it.
Behind a number nothing may stand that could belong to it; in an array, an object or
a whole text nothing does.
-/

namespace Meshwork
set_option autoImplicit false

namespace Bytes

/-! ## Digits -/

theorem toNat_digit {d : Nat} (h : d < 10) : (48 + UInt8.ofNat d).toNat = 48 + d := by
  rw [UInt8.toNat_add, UInt8.toNat_ofNat']
  change (48 + d % 256) % 256 = 48 + d
  omega

theorem isDigit_digit {d : Nat} (h : d < 10) : isDigit (48 + UInt8.ofNat d) = true := by
  have hvalue := toNat_digit h
  unfold isDigit
  rw [Bool.and_eq_true, decide_eq_true_iff, decide_eq_true_iff, UInt8.le_iff_toNat_le,
    UInt8.le_iff_toNat_le, hvalue]
  exact ⟨Nat.le_add_right 48 d, by change 48 + d ≤ 57; omega⟩

theorem isDigit_of_mem_decimal {n : Nat} {b : UInt8} (h : b ∈ decimal n) : isDigit b = true := by
  induction n using decimal.induct with
  | case1 n hsmall =>
    rw [decimal, if_pos hsmall] at h
    rw [List.mem_singleton.mp h]
    exact isDigit_digit hsmall
  | case2 n hlarge ih =>
    rw [decimal, if_neg hlarge] at h
    rcases List.mem_append.mp h with h | h
    · exact ih h
    · rw [List.mem_singleton.mp h]
      exact isDigit_digit (Nat.mod_lt n (by decide))

theorem ofDecimal_decimal (n : Nat) : ofDecimal (decimal n) = n := by
  induction n using decimal.induct with
  | case1 n hsmall =>
    rw [decimal, if_pos hsmall]
    change 10 * 0 + ((48 + UInt8.ofNat n).toNat - 48) = n
    rw [toNat_digit hsmall]
    omega
  | case2 n hlarge ih =>
    have hlast := toNat_digit (Nat.mod_lt n (show 10 > 0 by decide))
    rw [decimal, if_neg hlarge]
    unfold ofDecimal at ih ⊢
    rw [List.foldl_append, ih, List.foldl_cons, List.foldl_nil, hlast]
    omega

theorem decimal_ne_nil (n : Nat) : decimal n ≠ [] := by
  rw [decimal]
  split
  · exact List.cons_ne_nil _ _
  · exact List.append_ne_nil_of_right_ne_nil _ (List.cons_ne_nil _ _)

/-- No zero stands in front of other digits. -/
theorem head_decimal {n : Nat} (h : (decimal n).head? = some 48) : (decimal n).length = 1 := by
  have hzero : n = 0 := by
    induction n using decimal.induct with
    | case1 n hsmall =>
      rw [decimal, if_pos hsmall] at h
      have hdigit := congrArg UInt8.toNat (Option.some.inj h)
      rw [toNat_digit hsmall] at hdigit
      exact Nat.add_left_cancel (k := 0) hdigit
    | case2 n hlarge ih =>
      rw [decimal, if_neg hlarge] at h
      have hfirst : (decimal (n / 10)).head? = some 48 := by
        cases hdigits : decimal (n / 10) with
        | nil => exact absurd hdigits (decimal_ne_nil _)
        | cons b bs =>
          rw [hdigits] at h
          exact h
      have hnone := ih hfirst
      omega
  rw [hzero, decimal]
  rfl

end Bytes

namespace Json

/-! ## Numbers -/

/-- Nothing that could belong to a number stands in front. -/
def EndsNumber (rest : Bytes) : Prop :=
  ∀ b tail, rest = b :: tail → Bytes.isDigit b = false ∧ b ≠ 46 ∧ b ≠ 101 ∧ b ≠ 69

variable {rest : Bytes} {fuel : Nat}

theorem endsNumber_nil : EndsNumber [] := nofun

theorem fraction_of_ends (h : EndsNumber rest) : fraction rest = some rest := by
  unfold fraction
  split
  · exact absurd rfl (h 46 _ rfl).2.1
  · rfl

theorem exponent_of_ends (h : EndsNumber rest) : exponent rest = some rest := by
  unfold exponent
  split
  · rfl
  · rename_i b tail
    obtain ⟨_, _, hlower, hupper⟩ := h b tail rfl
    rw [if_neg (not_or.mpr ⟨hlower, hupper⟩)]

theorem takeWhile_of_ends (h : EndsNumber rest) : rest.takeWhile Bytes.isDigit = [] := by
  cases rest with
  | nil => rfl
  | cons b tail => exact List.takeWhile_cons_of_neg (by rw [(h b tail rfl).1]; exact nofun)

theorem dropWhile_of_ends (h : EndsNumber rest) : rest.dropWhile Bytes.isDigit = rest := by
  cases rest with
  | nil => rfl
  | cons b tail => exact List.dropWhile_cons_of_neg (by rw [(h b tail rfl).1]; exact nofun)

theorem unsigned_decimal {negative : Bool} {n : Nat} (spelled : Bytes) (hends : EndsNumber rest)
    (hsign : negative = true → n ≠ 0) :
    unsigned negative spelled (Bytes.decimal n ++ rest) =
      some (integer (if negative then -(n : Int) else n), rest) := by
  have hdigits : (Bytes.decimal n ++ rest).takeWhile Bytes.isDigit = Bytes.decimal n := by
    rw [List.takeWhile_append_of_pos fun b => Bytes.isDigit_of_mem_decimal, takeWhile_of_ends hends,
      List.append_nil]
  have hrest : (Bytes.decimal n ++ rest).dropWhile Bytes.isDigit = rest := by
    rw [List.dropWhile_append_of_pos fun b => Bytes.isDigit_of_mem_decimal, dropWhile_of_ends hends]
  have hwhole : ¬(Bytes.decimal n = [] ∨
      ((Bytes.decimal n).length ≠ 1 ∧ (Bytes.decimal n).head? = some 48)) := by
    rintro (hnil | ⟨hlength, hhead⟩)
    · exact Bytes.decimal_ne_nil n hnil
    · exact hlength (Bytes.head_decimal hhead)
  have hafter : (fraction rest).bind exponent = some rest := by
    rw [fraction_of_ends hends]
    exact exponent_of_ends hends
  unfold unsigned
  simp only
  rw [hdigits, hrest, if_neg hwhole, hafter]
  simp only
  rw [Bytes.ofDecimal_decimal, if_pos ⟨trivial, fun h => hsign h.1 h.2⟩]

theorem number_integerText (n : Int) (hends : EndsNumber rest) :
    number (integerText n ++ rest) = some (integer n, rest) := by
  cases n with
  | ofNat n =>
    have hplain : number (Bytes.decimal n ++ rest) =
        unsigned false (Bytes.decimal n ++ rest) (Bytes.decimal n ++ rest) := by
      unfold number
      split
      · rename_i tail heq
        have hdigit : Bytes.isDigit 45 = true := by
          cases hdecimal : Bytes.decimal n with
          | nil => exact absurd hdecimal (Bytes.decimal_ne_nil n)
          | cons b bs =>
            rw [hdecimal] at heq
            rw [← (List.cons.inj heq).1]
            exact Bytes.isDigit_of_mem_decimal (hdecimal ▸ List.mem_cons_self)
        cases hdigit
      · rfl
    change number (Bytes.decimal n ++ rest) = _
    rw [hplain]
    exact unsigned_decimal (n := n) _ hends (fun h => nomatch h)
  | negSucc n =>
    change unsigned true (45 :: (Bytes.decimal (n + 1) ++ rest)) (Bytes.decimal (n + 1) ++ rest) = _
    rw [unsigned_decimal _ hends fun _ => Nat.succ_ne_zero n]
    rfl

/-- A number starts with a digit or a minus, so it is no other value. -/
theorem head_integerText (n : Int) :
    ∃ b bs, integerText n = b :: bs ∧ (b = 45 ∨ Bytes.isDigit b = true) := by
  cases n with
  | ofNat n =>
    cases hdecimal : Bytes.decimal n with
    | nil => exact absurd hdecimal (Bytes.decimal_ne_nil n)
    | cons b bs =>
      exact ⟨b, bs, hdecimal, Or.inr (Bytes.isDigit_of_mem_decimal (hdecimal ▸ List.mem_cons_self))⟩
  | negSucc n => exact ⟨45, _, rfl, Or.inl rfl⟩

/-! ## Strings -/

theorem hexValue_hexDigit {d : Nat} (h : d < 16) : hexValue? (hexDigit d) = some d := by
  have hall : ∀ d : Fin 16, hexValue? (hexDigit d.val) = some d.val := by decide
  exact hall ⟨d, h⟩

/-- The escape of a control character, whatever stands behind it. -/
theorem unicodeEscape_control {b : UInt8} (h : b < 32) (rest : Bytes) :
    unicodeEscape (48 :: 48 :: hexDigit (b.toNat / 16) :: hexDigit (b.toNat % 16) :: rest) =
      some ([b], rest) := by
  have hsmall : b.toNat < 32 := UInt8.lt_iff_toNat_lt.mp h
  have hunit : unit? (48 :: 48 :: hexDigit (b.toNat / 16) :: hexDigit (b.toNat % 16) :: rest) =
      some (b.toNat, rest) := by
    have hvalue : ((0 * 16 + 0) * 16 + b.toNat / 16) * 16 + b.toNat % 16 = b.toNat := by omega
    have hzero : hexValue? 48 = some 0 := by decide
    have hhigh := hexValue_hexDigit (show b.toNat / 16 < 16 by omega)
    have hlow := hexValue_hexDigit (show b.toNat % 16 < 16 by omega)
    unfold unit?
    simp only [hzero, hhigh, hlow, hvalue]
  have hspread : spread b.toNat = [b] := by
    unfold spread
    simp only
    rw [if_pos (by omega), UInt8.ofNat_toNat]
  have hlow : ¬(0xD800 ≤ b.toNat) := by omega
  unfold unicodeEscape
  rw [hunit]
  simp only
  split
  · split
    · rw [if_neg fun h => hlow h.1, hspread]
    · rw [hspread]
  · rw [hspread]

/-- A byte is written behind a backslash by one letter or by its number, or as it is. -/
theorem escaped_cases (b : UInt8) :
    (∃ c, escaped b = [92, c] ∧ ∀ bs, escape (c :: bs) = some ([b], bs)) ∨
      (b < 32 ∧ escaped b =
        [92, 117, 48, 48, hexDigit (b.toNat / 16), hexDigit (b.toNat % 16)]) ∨
      (b ≠ 34 ∧ b ≠ 92 ∧ ¬b < 32 ∧ escaped b = [b]) := by
  by_cases hquote : b = 34
  · exact Or.inl ⟨34, by rw [hquote]; rfl, fun _ => by rw [hquote]; rfl⟩
  by_cases hbackslash : b = 92
  · exact Or.inl ⟨92, by rw [hbackslash]; rfl, fun _ => by rw [hbackslash]; rfl⟩
  by_cases hback : b = 8
  · exact Or.inl ⟨98, by rw [hback]; rfl, fun _ => by rw [hback]; rfl⟩
  by_cases htab : b = 9
  · exact Or.inl ⟨116, by rw [htab]; rfl, fun _ => by rw [htab]; rfl⟩
  by_cases hline : b = 10
  · exact Or.inl ⟨110, by rw [hline]; rfl, fun _ => by rw [hline]; rfl⟩
  by_cases hpage : b = 12
  · exact Or.inl ⟨102, by rw [hpage]; rfl, fun _ => by rw [hpage]; rfl⟩
  by_cases hreturn : b = 13
  · exact Or.inl ⟨114, by rw [hreturn]; rfl, fun _ => by rw [hreturn]; rfl⟩
  right
  unfold escaped
  rw [if_neg hquote, if_neg hbackslash, if_neg hback, if_neg htab, if_neg hline, if_neg hpage,
    if_neg hreturn]
  by_cases hcontrol : b < 32
  · exact Or.inl ⟨hcontrol, if_pos hcontrol⟩
  · exact Or.inr ⟨hquote, hbackslash, hcontrol, if_neg hcontrol⟩

theorem content_escaped (b : UInt8) (fuel : Nat) (bs : Bytes) :
    content (fuel + 1) (escaped b ++ bs) =
      (content fuel bs).map fun (cs, r) => (b :: cs, r) := by
  have hbehind : ∀ after, escape after = some ([b], bs) →
      content (fuel + 1) (92 :: after) = (content fuel bs).map fun (cs, r) => (b :: cs, r) := by
    intro after h
    rw [content, if_neg (by decide), if_pos rfl, h]
    rfl
  rcases escaped_cases b with ⟨c, h, hescape⟩ | ⟨hcontrol, h⟩ | ⟨hquote, hbackslash, hplain, h⟩
  · rw [h]
    exact hbehind _ (hescape bs)
  · rw [h]
    exact hbehind _ (unicodeEscape_control hcontrol bs)
  · rw [h]
    change content (fuel + 1) (b :: bs) = _
    rw [content, if_neg hquote, if_neg hbackslash, if_neg hplain]

/-- A string is read up to its closing quote. -/
theorem content_quoted (text rest : Bytes) (h : text.length < fuel) :
    content fuel (text.flatMap escaped ++ 34 :: rest) = some (text, rest) := by
  induction text generalizing fuel with
  | nil =>
    cases fuel with
    | zero => cases h
    | succ fuel => rfl
  | cons b text ih =>
    cases fuel with
    | zero => cases h
    | succ fuel =>
      rw [List.flatMap_cons, List.append_assoc, content_escaped,
        ih (Nat.lt_of_succ_lt_succ h)]
      rfl

theorem length_flatMap_escaped (text : Bytes) : text.length ≤ (text.flatMap escaped).length := by
  have hone : ∀ b, 1 ≤ (escaped b).length := by
    intro b
    rcases escaped_cases b with ⟨c, h, _⟩ | ⟨_, h⟩ | ⟨_, _, _, h⟩
    all_goals
      rw [h]
      exact Nat.le_add_left 1 _
  induction text with
  | nil => exact Nat.le_refl 0
  | cons b text ih =>
    rw [List.flatMap_cons, List.length_append, List.length_cons]
    have hfirst := hone b
    omega

/-- As much fuel as there are bytes is enough for a string. -/
theorem content_of_quoted (text rest : Bytes) :
    content ((text.flatMap escaped ++ 34 :: rest).length + 1)
      (text.flatMap escaped ++ 34 :: rest) = some (text, rest) := by
  have hlength := length_flatMap_escaped text
  apply content_quoted
  rw [List.length_append]
  omega

/-! ## Literals -/

theorem skipBlanks_of_head {b : UInt8} (h : isBlank b = false) (bs : Bytes) :
    skipBlanks (b :: bs) = b :: bs :=
  List.dropWhile_cons_of_neg (by rw [h]; exact nofun)

theorem text_null : Bytes.ofText "null" = [110, 117, 108, 108] := by decide +kernel

theorem text_true : Bytes.ofText "true" = [116, 114, 117, 101] := by decide +kernel

theorem text_false : Bytes.ofText "false" = [102, 97, 108, 115, 101] := by decide +kernel

/-- What a number starts with starts nothing else. -/
theorem ne_of_leads {b c : UInt8} (h : b = 45 ∨ Bytes.isDigit b = true) (hminus : c ≠ 45)
    (hdigit : Bytes.isDigit c = false) : b ≠ c := by
  rintro rfl
  rcases h with h | h
  · exact hminus h
  · rw [hdigit] at h
    cases h

theorem isBlank_of_leads {b : UInt8} (h : b = 45 ∨ Bytes.isDigit b = true) : isBlank b = false := by
  unfold isBlank
  rw [beq_false_of_ne (ne_of_leads h (c := 32) (by decide) rfl),
    beq_false_of_ne (ne_of_leads h (c := 9) (by decide) rfl),
    beq_false_of_ne (ne_of_leads h (c := 10) (by decide) rfl),
    beq_false_of_ne (ne_of_leads h (c := 13) (by decide) rfl)]
  rfl

theorem literal_eq_number {b : UInt8} (h : b = 45 ∨ Bytes.isDigit b = true) (bs : Bytes) :
    literal (b :: bs) = number (b :: bs) := by
  have hother : ∀ c cs, c ≠ 45 → Bytes.isDigit c = false → stripped (c :: cs) (b :: bs) = none := by
    intro c cs hminus hdigit
    unfold stripped
    rw [List.isPrefixOf_cons_cons, beq_false_of_ne (ne_of_leads h hminus hdigit).symm]
    rfl
  unfold literal
  rw [text_null, text_true, text_false, hother 110 _ (by decide) (by decide),
    hother 116 _ (by decide) (by decide), hother 102 _ (by decide) (by decide)]

/-- What opens no string, array or object is a literal. -/
theorem value_eq_literal {b : UInt8} (hblank : isBlank b = false) (hquote : b ≠ 34)
    (hbracket : b ≠ 91) (hbrace : b ≠ 123) (fuel : Nat) (bs : Bytes) :
    value (fuel + 1) (b :: bs) = literal (b :: bs) := by
  rw [value, skipBlanks_of_head hblank]
  simp only
  rw [if_neg hquote, if_neg hbracket, if_neg hbrace]

theorem value_integer (n : Int) (fuel : Nat) (hends : EndsNumber rest) :
    value (fuel + 1) (integerText n ++ rest) = some (integer n, rest) := by
  have hnumber := number_integerText n hends
  obtain ⟨b, bs, htext, hhead⟩ := head_integerText n
  rw [htext, List.cons_append] at hnumber ⊢
  rw [value_eq_literal (isBlank_of_leads hhead) (ne_of_leads hhead (by decide) rfl)
    (ne_of_leads hhead (by decide) rfl) (ne_of_leads hhead (by decide) rfl),
    literal_eq_number hhead, hnumber]

theorem value_null (rest : Bytes) (fuel : Nat) :
    value (fuel + 1) (Bytes.ofText "null" ++ rest) = some (null, rest) := by
  have hliteral : literal (Bytes.ofText "null" ++ rest) = some (null, rest) := by
    unfold literal stripped
    rw [List.isPrefixOf_iff_prefix.mpr (List.prefix_append _ rest), if_pos rfl, List.drop_left]
  rw [text_null] at hliteral ⊢
  exact (value_eq_literal rfl (by decide) (by decide) (by decide) fuel _).trans hliteral

theorem value_bool (flag : Bool) (rest : Bytes) (fuel : Nat) :
    value (fuel + 1) ((bool flag).render ++ rest) = some (bool flag, rest) := by
  cases flag with
  | true =>
    have hliteral : literal (Bytes.ofText "true" ++ rest) = some (bool true, rest) := by
      unfold literal stripped
      rw [text_null, text_true]
      rfl
    change value (fuel + 1) (Bytes.ofText "true" ++ rest) = _
    rw [text_true] at hliteral ⊢
    exact (value_eq_literal rfl (by decide) (by decide) (by decide) fuel _).trans hliteral
  | false =>
    have hliteral : literal (Bytes.ofText "false" ++ rest) = some (bool false, rest) := by
      unfold literal stripped
      rw [text_null, text_true, text_false]
      rfl
    change value (fuel + 1) (Bytes.ofText "false" ++ rest) = _
    rw [text_false] at hliteral ⊢
    exact (value_eq_literal rfl (by decide) (by decide) (by decide) fuel _).trans hliteral

theorem value_string (text rest : Bytes) (fuel : Nat) :
    value (fuel + 1) ((string text).render ++ rest) = some (string text, rest) := by
  have htext : (string text).render ++ rest = 34 :: (text.flatMap escaped ++ 34 :: rest) := by
    change (34 :: text.flatMap escaped ++ [34]) ++ rest = _
    rw [List.append_assoc]
    rfl
  rw [htext, value, skipBlanks_of_head rfl]
  simp only
  rw [if_pos trivial, content_of_quoted]
  rfl

/-! ## Values -/

mutual

/-- All numbers of a value are integers. -/
def IsWhole : Json → Prop
  | decimal _ => False
  | array items => AllWhole items
  | object members => MembersWhole members
  | null => True
  | bool _ => True
  | integer _ => True
  | string _ => True

def AllWhole : List Json → Prop
  | [] => True
  | v :: vs => v.IsWhole ∧ AllWhole vs

def MembersWhole : List (Bytes × Json) → Prop
  | [] => True
  | (_, v) :: ms => v.IsWhole ∧ MembersWhole ms

end

theorem allWhole_map {α : Type} {f : α → Json} {l : List α} (h : ∀ a ∈ l, (f a).IsWhole) :
    AllWhole (l.map f) := by
  induction l with
  | nil => trivial
  | cons a l ih => exact ⟨h a List.mem_cons_self, ih fun b hb => h b (List.mem_cons_of_mem a hb)⟩

theorem membersWhole_of_forall {ms : List (Bytes × Json)} (h : ∀ m ∈ ms, m.2.IsWhole) :
    MembersWhole ms := by
  induction ms with
  | nil => trivial
  | cons m ms ih =>
    exact ⟨h m List.mem_cons_self, ih fun other hother => h other (List.mem_cons_of_mem m hother)⟩

theorem isWhole_ofBytes (bs : Bytes) : (ofBytes bs).IsWhole :=
  allWhole_map fun _ _ => trivial

theorem endsNumber_items (vs : List Json) (rest : Bytes) : EndsNumber (renderItems vs ++ rest) := by
  intro b tail h
  cases vs with
  | nil =>
    rw [renderItems] at h
    rw [← (List.cons.inj h).1]
    decide
  | cons v vs =>
    rw [renderItems] at h
    rw [← (List.cons.inj h).1]
    decide

theorem endsNumber_members (ms : List (Bytes × Json)) (rest : Bytes) :
    EndsNumber (renderMembers ms ++ rest) := by
  intro b tail h
  cases ms with
  | nil =>
    rw [renderMembers] at h
    rw [← (List.cons.inj h).1]
    decide
  | cons m ms =>
    rw [renderMembers] at h
    rw [← (List.cons.inj h).1]
    decide

/-- A value starts with no blank, and with no closing bracket. -/
theorem head_render {j : Json} (h : j.IsWhole) :
    ∃ b bs, j.render = b :: bs ∧ isBlank b = false ∧ b ≠ 93 := by
  cases j with
  | null => exact ⟨_, _, text_null, by decide, by decide⟩
  | bool flag =>
    cases flag with
    | true => exact ⟨_, _, text_true, by decide, by decide⟩
    | false => exact ⟨_, _, text_false, by decide, by decide⟩
  | integer n =>
    obtain ⟨b, bs, htext, hhead⟩ := head_integerText n
    exact ⟨b, bs, htext, isBlank_of_leads hhead, ne_of_leads hhead (by decide) rfl⟩
  | decimal spelling => cases h
  | string text => exact ⟨_, _, rfl, by decide, by decide⟩
  | array items =>
    cases items with
    | nil => exact ⟨_, _, rfl, by decide, by decide⟩
    | cons v vs => exact ⟨_, _, rfl, by decide, by decide⟩
  | object members =>
    cases members with
    | nil => exact ⟨_, _, rfl, by decide, by decide⟩
    | cons m ms => exact ⟨_, _, rfl, by decide, by decide⟩

theorem items_last {v : Json} {bs : Bytes} (h : value fuel bs = some (v, 93 :: rest)) :
    items (fuel + 1) bs = some ([v], rest) := by
  rw [items, h]
  simp only
  rw [skipBlanks_of_head rfl]
  rfl

theorem items_more {v : Json} {vs : List Json} {bs more : Bytes}
    (h : value fuel bs = some (v, 44 :: more)) (hmore : items fuel more = some (vs, rest)) :
    items (fuel + 1) bs = some (v :: vs, rest) := by
  rw [items, h]
  simp only
  rw [skipBlanks_of_head rfl]
  simp only
  rw [hmore]
  rfl

/-- A name and what stands behind its colon, up to a value. -/
theorem members_head (name text : Bytes) (fuel : Nat) :
    members (fuel + 1) (quoted name ++ 58 :: text) =
      match value fuel text with
      | none => none
      | some (v, rest) =>
        match skipBlanks rest with
        | 44 :: r => (members fuel r).map fun (ms, r) => ((name, v) :: ms, r)
        | 125 :: r => some ([(name, v)], r)
        | _ => none := by
  have hname : quoted name ++ 58 :: text = 34 :: (name.flatMap escaped ++ 34 :: 58 :: text) := by
    unfold quoted
    rw [List.append_assoc]
    rfl
  rw [hname, members, skipBlanks_of_head rfl]
  simp only
  rw [content_of_quoted]
  simp only
  rw [skipBlanks_of_head rfl]
  rfl

theorem members_last {name text : Bytes} {v : Json} (h : value fuel text = some (v, 125 :: rest)) :
    members (fuel + 1) (quoted name ++ 58 :: text) = some ([(name, v)], rest) := by
  rw [members_head, h]
  simp only
  rw [skipBlanks_of_head rfl]
  rfl

theorem members_more {name text more : Bytes} {v : Json} {ms : List (Bytes × Json)}
    (h : value fuel text = some (v, 44 :: more)) (hmore : members fuel more = some (ms, rest)) :
    members (fuel + 1) (quoted name ++ 58 :: text) = some ((name, v) :: ms, rest) := by
  rw [members_head, h]
  simp only
  rw [skipBlanks_of_head rfl]
  simp only
  rw [hmore]
  rfl

theorem value_array {vs : List Json} {b : UInt8} {text : Bytes} (hblank : isBlank b = false)
    (hclose : b ≠ 93) (h : items fuel (b :: text) = some (vs, rest)) :
    value (fuel + 1) (91 :: b :: text) = some (array vs, rest) := by
  rw [value, skipBlanks_of_head rfl]
  simp only
  rw [if_neg (by decide), if_pos trivial, skipBlanks_of_head hblank]
  split
  · rename_i heq
    exact absurd (List.cons.inj heq).1 hclose
  · rw [h]
    rfl

theorem value_object {ms : List (Bytes × Json)} {text : Bytes}
    (h : members fuel (34 :: text) = some (ms, rest)) :
    value (fuel + 1) (123 :: 34 :: text) = some (object ms, rest) := by
  rw [value, skipBlanks_of_head rfl]
  simp only
  rw [if_neg (by decide), if_neg (by decide), if_pos trivial, skipBlanks_of_head rfl]
  change (members fuel (34 :: text)).map _ = _
  rw [h]
  rfl

mutual

/-- A value is read again as it was written, with twice as much fuel as there are
bytes in it. -/
theorem value_render (j : Json) (fuel : Nat) (rest : Bytes) (hwhole : j.IsWhole)
    (hfuel : 2 * j.render.length ≤ fuel) (hends : EndsNumber rest) :
    value fuel (j.render ++ rest) = some (j, rest) := by
  obtain ⟨b, bs, htext, _, _⟩ := head_render hwhole
  obtain ⟨fuel, rfl⟩ : ∃ f, fuel = f + 1 := by
    rw [htext, List.length_cons] at hfuel
    exact ⟨fuel - 1, by omega⟩
  match j, hwhole, hfuel with
  | .null, _, _ => exact value_null rest fuel
  | .bool flag, _, _ => exact value_bool flag rest fuel
  | .integer n, _, _ => exact value_integer n fuel hends
  | .string text, _, _ => exact value_string text rest fuel
  | .array [], _, _ => rfl
  | .object [], _, _ => rfl
  | .array (v :: vs), hwhole, hfuel =>
    obtain ⟨hfirst, hothers⟩ := hwhole
    obtain ⟨b, bs, hhead, hblank, hclose⟩ := head_render hfirst
    have hlength : (array (v :: vs)).render.length =
        1 + v.render.length + (renderItems vs).length := by
      rw [render, List.length_append, List.length_cons]
      omega
    have hitems : items fuel (v.render ++ (renderItems vs ++ rest)) = some (v :: vs, rest) := by
      obtain ⟨fuel, rfl⟩ : ∃ f, fuel = f + 1 := ⟨fuel - 1, by omega⟩
      exact items_render vs v fuel _ rest hothers (by omega)
        (value_render v fuel _ hfirst (by omega) (endsNumber_items vs rest))
    have htext : (array (v :: vs)).render ++ rest =
        91 :: (v.render ++ (renderItems vs ++ rest)) := by
      rw [render, List.append_assoc]
      rfl
    rw [htext]
    rw [hhead] at hitems ⊢
    exact value_array hblank hclose hitems
  | .object ((name, v) :: ms), hwhole, hfuel =>
    obtain ⟨hfirst, hothers⟩ := hwhole
    have hlength : (object ((name, v) :: ms)).render.length =
        2 + (quoted name).length + v.render.length + (renderMembers ms).length := by
      rw [render, List.length_append, List.length_append, List.length_cons, List.length_cons]
      omega
    have hmembers : members fuel (quoted name ++ 58 :: (v.render ++ (renderMembers ms ++ rest))) =
        some ((name, v) :: ms, rest) := by
      obtain ⟨fuel, rfl⟩ : ∃ f, fuel = f + 1 := ⟨fuel - 1, by omega⟩
      exact members_render ms name v fuel _ rest hothers (by omega)
        (value_render v fuel _ hfirst (by omega) (endsNumber_members ms rest))
    have htext : (object ((name, v) :: ms)).render ++ rest =
        123 :: (quoted name ++ 58 :: (v.render ++ (renderMembers ms ++ rest))) := by
      rw [render, List.append_assoc, List.append_assoc]
      rfl
    rw [htext]
    exact value_object hmembers

/-- What follows the first value of an array. -/
theorem items_render (vs : List Json) (v : Json) (fuel : Nat) (text rest : Bytes)
    (hwhole : AllWhole vs) (hfuel : 2 * (renderItems vs).length ≤ fuel)
    (hfirst : value fuel text = some (v, renderItems vs ++ rest)) :
    items (fuel + 1) text = some (v :: vs, rest) := by
  match vs, hwhole, hfuel with
  | [], _, _ => exact items_last hfirst
  | w :: ws, hwhole, hfuel =>
    obtain ⟨hnext, hothers⟩ := hwhole
    have hlength : (renderItems (w :: ws)).length =
        1 + w.render.length + (renderItems ws).length := by
      rw [renderItems, List.length_append, List.length_cons]
      omega
    have htext : renderItems (w :: ws) ++ rest =
        44 :: (w.render ++ (renderItems ws ++ rest)) := by
      rw [renderItems, List.append_assoc]
      rfl
    rw [htext] at hfirst
    obtain ⟨fuel, rfl⟩ : ∃ f, fuel = f + 1 := ⟨fuel - 1, by omega⟩
    exact items_more hfirst (items_render ws w fuel _ rest hothers (by omega)
      (value_render w fuel _ hnext (by omega) (endsNumber_items ws rest)))

/-- What follows the first member of an object. -/
theorem members_render (ms : List (Bytes × Json)) (name : Bytes) (v : Json) (fuel : Nat)
    (text rest : Bytes) (hwhole : MembersWhole ms) (hfuel : 2 * (renderMembers ms).length ≤ fuel)
    (hfirst : value fuel text = some (v, renderMembers ms ++ rest)) :
    members (fuel + 1) (quoted name ++ 58 :: text) = some ((name, v) :: ms, rest) := by
  match ms, hwhole, hfuel with
  | [], _, _ => exact members_last hfirst
  | (other, w) :: ms, hwhole, hfuel =>
    obtain ⟨hnext, hothers⟩ := hwhole
    have hlength : (renderMembers ((other, w) :: ms)).length =
        2 + (quoted other).length + w.render.length + (renderMembers ms).length := by
      rw [renderMembers, List.length_append, List.length_append, List.length_cons,
        List.length_cons]
      omega
    have htext : renderMembers ((other, w) :: ms) ++ rest =
        44 :: (quoted other ++ 58 :: (w.render ++ (renderMembers ms ++ rest))) := by
      rw [renderMembers, List.append_assoc, List.append_assoc]
      rfl
    rw [htext] at hfirst
    obtain ⟨fuel, rfl⟩ : ∃ f, fuel = f + 1 := ⟨fuel - 1, by omega⟩
    exact members_more hfirst (members_render ms other w fuel _ rest hothers (by omega)
      (value_render w fuel _ hnext (by omega) (endsNumber_members ms rest)))

end

/-- A text that was written is read as the value it was written for. -/
theorem parse_render {j : Json} (h : j.IsWhole) : parse? j.render = some j := by
  have hvalue := value_render j (2 * j.render.length + 1) [] h (Nat.le_succ _) endsNumber_nil
  rw [List.append_nil] at hvalue
  unfold parse?
  rw [hvalue]
  rfl

end Json
end Meshwork
