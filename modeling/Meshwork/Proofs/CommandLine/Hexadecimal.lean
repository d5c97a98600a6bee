import Meshwork.CommandLine.Values

/-!
# Hexadecimal on the command line

Bytes are typed as two digits each, in pieces between blanks and behind any number of marks.
However the digits of bytes are typed, the same bytes are read. Beside pairs of digits a plus
sign in front of a single digit is read as a byte too, and nothing else is.
-/

namespace Meshwork
set_option autoImplicit false

namespace Hex

variable {c : Char} {v : Nat} {bs : Bytes} {cs : List Char}

/-- A digit of either case, and what it stands for. -/
def HasValue (c : Char) (v : Nat) : Prop :=
  "0123456789abcdef".toList[v]? = some c ∨ "0123456789ABCDEF".toList[v]? = some c
deriving Decidable

/-- Digits that spell these bytes, two for each. -/
inductive Spells : List Char → Bytes → Prop
  | nil : Spells [] []
  | pair {a b : Char} {x y : Nat} {cs : List Char} {bs : Bytes} :
      HasValue a x → HasValue b y → Spells cs bs →
        Spells (a :: b :: cs) (UInt8.ofNat (16 * x + y) :: bs)

theorem digitValue?_of_hasValue (h : HasValue c v) : digitValue? c = some v := by
  have hall : ∀ digits ∈ ["0123456789abcdef", "0123456789ABCDEF"], ∀ v : Fin 16,
      (digits.toList[v.val]?).bind digitValue? = some v.val := by decide
  have hlt : ∀ digits ∈ ["0123456789abcdef", "0123456789ABCDEF"], digits.toList.length = 16 := by
    decide
  have hvalue : ∀ digits ∈ ["0123456789abcdef", "0123456789ABCDEF"],
      digits.toList[v]? = some c → digitValue? c = some v := by
    intro digits hdigits hc
    obtain ⟨hsmall, _⟩ := List.getElem?_eq_some_iff.mp hc
    have hread := hall digits hdigits ⟨v, hlt digits hdigits ▸ hsmall⟩
    rw [hc] at hread
    exact hread
  rcases h with h | h
  · exact hvalue _ (by decide) h
  · exact hvalue _ (by decide) h

/-- All digits are among the first characters. -/
theorem toNat_of_digitValue? (h : digitValue? c = some v) : c.toNat < 103 := by
  unfold digitValue? at h
  split at h
  · rename_i hdecimal
    exact Nat.lt_of_le_of_lt hdecimal.2 (by decide)
  split at h
  · rename_i hlower
    exact Nat.lt_of_le_of_lt hlower.2 (by decide)
  split at h
  · rename_i hupper
    exact Nat.lt_of_le_of_lt hupper.2 (by decide)
  · cases h

theorem hasValue_of_digitValue? (h : digitValue? c = some v) : HasValue c v := by
  have hall : ∀ n < 103, ∀ v ∈ digitValue? (Char.ofNat n), HasValue (Char.ofNat n) v := by decide
  have hvalue := hall c.toNat (toNat_of_digitValue? h)
  rw [Char.ofNat_toNat] at hvalue
  exact hvalue v h

theorem digitValue?_eq_some_iff : digitValue? c = some v ↔ HasValue c v :=
  ⟨hasValue_of_digitValue?, digitValue?_of_hasValue⟩

theorem HasValue.lt (h : HasValue c v) : v < 16 := by
  rcases h with h | h
  · exact (List.getElem?_eq_some_iff.mp h).1
  · exact (List.getElem?_eq_some_iff.mp h).1

theorem hasValue_digit (h : v < 16) : HasValue (digit v) v := by
  have hall : ∀ v < 16, HasValue (digit v) v := by decide
  exact hall v h

/-- What is written for bytes spells them. -/
theorem spells_digits (bs : Bytes) : Spells (digits bs) bs := by
  induction bs with
  | nil => exact .nil
  | cons b bs ih =>
    have hb : b.toNat < 256 := b.toNat_lt
    have hpair := Spells.pair (hasValue_digit (show b.toNat / 16 < 16 by omega))
      (hasValue_digit (show b.toNat % 16 < 16 by omega)) ih
    rw [show 16 * (b.toNat / 16) + b.toNat % 16 = b.toNat by omega, UInt8.ofNat_toNat] at hpair
    exact hpair

theorem Spells.hasValue (h : Spells cs bs) (hc : c ∈ cs) : ∃ v, HasValue c v := by
  induction h with
  | nil => cases hc
  | pair ha hb _ ih =>
    rcases List.mem_cons.mp hc with rfl | hc
    · exact ⟨_, ha⟩
    rcases List.mem_cons.mp hc with rfl | hc
    · exact ⟨_, hb⟩
    · exact ih hc

end Hex

namespace CommandLine

variable {a b c : Char} {cs : List Char} {bs : Bytes} {n : Nat}

/-- What is read as these bytes: two digits for each of them, or a plus sign and one digit. -/
inductive Takes : List Char → Bytes → Prop
  | nil : Takes [] []
  | pair {a b : Char} {x y : Nat} {cs : List Char} {bs : Bytes} :
      Hex.HasValue a x → Hex.HasValue b y → Takes cs bs →
        Takes (a :: b :: cs) (UInt8.ofNat (16 * x + y) :: bs)
  | signed {b : Char} {y : Nat} {cs : List Char} {bs : Bytes} :
      Hex.HasValue b y → Takes cs bs → Takes ('+' :: b :: cs) (UInt8.ofNat y :: bs)

/-! ## Pairs -/

theorem extend_eq (m : Nat) (c : Char) :
    Number.extend 16 (some m) c = (Hex.digitValue? c).map (16 * m + ·) := by
  unfold Number.extend
  cases hc : Hex.digitValue? c with
  | none => rfl
  | some v =>
    simp only [Option.map_some]
    rw [if_pos (Hex.digitValue?_eq_some_iff.mp hc).lt]

theorem below?_pair (ha : a ≠ '+') : Number.below? 16 256 [a, b] = some n ↔
    ∃ x y, Hex.HasValue a x ∧ Hex.HasValue b y ∧ n = 16 * x + y := by
  have hplain : Number.afterPlus [a, b] = [a, b] := by
    unfold Number.afterPlus
    split
    · rename_i heq
      exact absurd (List.cons.inj heq).1 ha
    · rfl
  simp only [← Hex.digitValue?_eq_some_iff]
  unfold Number.below?
  rw [hplain]
  simp only [Number.ofDigits?, List.foldl_cons, List.foldl_nil, extend_eq]
  cases hx : Hex.digitValue? a with
  | none => simp [Number.extend]
  | some x =>
    cases hy : Hex.digitValue? b with
    | none => simp [extend_eq, hy]
    | some y =>
      have hxlt := (Hex.digitValue?_eq_some_iff.mp hx).lt
      have hylt := (Hex.digitValue?_eq_some_iff.mp hy).lt
      simp [extend_eq, hy, show 16 * x + y < 256 by omega, eq_comm]

theorem below?_signed : Number.below? 16 256 ['+', b] = some n ↔ Hex.HasValue b n := by
  rw [← Hex.digitValue?_eq_some_iff]
  unfold Number.below?
  simp only [Number.afterPlus, Number.ofDigits?, List.foldl_cons, List.foldl_nil, extend_eq]
  cases hy : Hex.digitValue? b with
  | none => simp
  | some y =>
    have hylt := (Hex.digitValue?_eq_some_iff.mp hy).lt
    simp [show y < 256 by omega]

theorem ne_plus_of_hasValue (h : Hex.HasValue c n) : c ≠ '+' := by
  rintro rfl
  cases Hex.digitValue?_of_hasValue h

theorem takes_of_readPairs (h : readPairs cs = .ok bs) : Takes cs bs := by
  induction cs using readPairs.induct generalizing bs with
  | case1 =>
    cases h
    exact .nil
  | case2 c => cases h
  | case3 a b rest n tail htail hn ih =>
    rw [readPairs, hn, htail] at h
    cases h
    by_cases ha : a = '+'
    · subst ha
      exact .signed (below?_signed.mp hn) (ih htail)
    · obtain ⟨x, y, hx, hy, rfl⟩ := (below?_pair ha).mp hn
      exact .pair hx hy (ih htail)
  | case4 a b rest hother ih =>
    unfold readPairs at h
    split at h
    · rename_i n tail hn htail
      exact absurd htail (hother n tail hn)
    · cases h

theorem readPairs_of_takes (h : Takes cs bs) : readPairs cs = .ok bs := by
  induction h with
  | nil => rfl
  | pair hx hy _ ih =>
    have hn := (below?_pair (ne_plus_of_hasValue hx)).mpr ⟨_, _, hx, hy, rfl⟩
    simp only [readPairs, hn, ih]
  | signed hy _ ih =>
    have hn := below?_signed.mpr hy
    simp only [readPairs, hn, ih]

/-! ## Texts -/

theorem Takes.of_spells (h : Hex.Spells cs bs) : Takes cs bs := by
  induction h with
  | nil => exact .nil
  | pair ha hb _ ih => exact .pair ha hb ih

/-- Only the plus sign makes a difference. -/
theorem Takes.spells (h : Takes cs bs) (hplain : '+' ∉ cs) : Hex.Spells cs bs := by
  induction h with
  | nil => exact .nil
  | pair ha hb _ ih =>
    exact .pair ha hb (ih fun hmem => hplain (List.mem_cons_of_mem _ (List.mem_cons_of_mem _ hmem)))
  | signed _ _ _ => exact absurd List.mem_cons_self hplain

theorem Takes.even (h : Takes cs bs) : cs.length = 2 * bs.length := by
  induction h with
  | nil => rfl
  | pair _ _ _ ih =>
    simp only [List.length_cons]
    omega
  | signed _ _ ih =>
    simp only [List.length_cons]
    omega

theorem Takes.toNat_lt (h : Takes cs bs) (hc : c ∈ cs) : c.toNat < 103 := by
  have hdigit : ∀ {c v}, Hex.HasValue c v → c.toNat < 103 :=
    fun h => Hex.toNat_of_digitValue? (Hex.digitValue?_of_hasValue h)
  induction h with
  | nil => cases hc
  | pair ha hb _ ih =>
    rcases List.mem_cons.mp hc with rfl | hc
    · exact hdigit ha
    rcases List.mem_cons.mp hc with rfl | hc
    · exact hdigit hb
    · exact ih hc
  | signed hb _ ih =>
    rcases List.mem_cons.mp hc with rfl | hc
    · decide
    rcases List.mem_cons.mp hc with rfl | hc
    · exact hdigit hb
    · exact ih hc

theorem readHex_eq_ok_iff {text : String} : readHex text = .ok bs ↔ Takes (hexDigits text) bs := by
  unfold readHex
  simp only
  constructor
  · intro h
    split at h
    · cases h
    split at h
    · cases h
    · exact takes_of_readPairs h
  · intro h
    have hascii : ¬(hexDigits text).any (fun c => decide (0x7F < c.toNat)) = true := by
      rw [List.any_eq_true]
      rintro ⟨c, hc, hlarge⟩
      have hsmall := h.toNat_lt hc
      have hover := of_decide_eq_true hlarge
      omega
    have heven : ¬(hexDigits text).length % 2 = 1 := by
      have hlength := h.even
      omega
    rw [if_neg hascii, if_neg heven]
    exact readPairs_of_takes h

theorem pieces_eq_splitOnPPrepend (piece cs : List Char) :
    pieces piece cs = cs.splitOnPPrepend isBlank piece := by
  induction cs generalizing piece with
  | nil => rfl
  | cons c cs ih =>
    rw [pieces, List.splitOnPPrepend_cons_eq_if, ih, ih, List.splitOnPPrepend_nil_right]

theorem hexDigits_eq (text : String) :
    hexDigits text = (text.toList.splitOnP isBlank).flatMap unmarked := by
  unfold hexDigits
  rw [pieces_eq_splitOnPPrepend, List.splitOnPPrepend_nil_right]

theorem mem_unmarked (hzero : c ≠ '0') (hmark : c ≠ 'x') : c ∈ unmarked cs ↔ c ∈ cs := by
  induction cs using unmarked.induct with
  | case1 rest ih =>
    rw [unmarked, ih, List.mem_cons, List.mem_cons, or_iff_right hzero, or_iff_right hmark]
  | case2 cs hother => rw [unmarked.eq_2 cs hother]

theorem mem_splitOnPPrepend {p : Char → Bool} (cs piece : List Char) (hp : p c = false) :
    c ∈ (cs.splitOnPPrepend p piece).flatten ↔ c ∈ piece ∨ c ∈ cs := by
  induction cs generalizing piece with
  | nil => simp
  | cons d cs ih =>
    cases hd : p d with
    | true =>
      have hne : c ≠ d := by
        rintro rfl
        rw [hd] at hp
        cases hp
      rw [List.splitOnPPrepend_cons_pos hd, List.flatten_cons, List.mem_append, List.mem_reverse,
        ← List.splitOnPPrepend_nil_right, ih, List.mem_cons, or_iff_right List.not_mem_nil,
        or_iff_right hne]
    | false =>
      rw [List.splitOnPPrepend_cons_neg hd, ih, List.mem_cons, List.mem_cons, or_assoc,
        or_left_comm]

/-- What is no part of a mark and no blank is not lost. -/
theorem mem_hexDigits {text : String} (hzero : c ≠ '0') (hmark : c ≠ 'x')
    (hblank : isBlank c = false) : c ∈ hexDigits text ↔ c ∈ text.toList := by
  have hsplit := mem_splitOnPPrepend text.toList [] hblank
  rw [List.splitOnPPrepend_nil_right, List.mem_flatten, or_iff_right List.not_mem_nil] at hsplit
  rw [hexDigits_eq, List.mem_flatMap, ← hsplit]
  exact exists_congr fun piece => and_congr_right fun _ => mem_unmarked hzero hmark

/-! ## Digits in pieces -/

/-- A run of digits behind so many marks. -/
def marked (run : Nat × List Char) : List Char :=
  (List.replicate run.1 ['0', 'x']).flatten ++ run.2

theorem unmarked_marked {run : Nat × List Char} (h : 'x' ∉ run.2) :
    unmarked (marked run) = run.2 := by
  obtain ⟨marks, digits⟩ := run
  induction marks with
  | zero =>
    refine unmarked.eq_2 digits ?_
    rintro rest rfl
    exact h (List.mem_cons_of_mem _ List.mem_cons_self)
  | succ marks ih => exact ih h

theorem hexDigits_of_runs {text : String} {runs : List (Nat × List Char)}
    (hruns : text.toList.splitOnP isBlank = runs.map marked)
    (hplain : ∀ run ∈ runs, 'x' ∉ run.2) : hexDigits text = runs.flatMap (·.2) := by
  rw [hexDigits_eq, hruns, List.flatMap_map, List.flatMap_def, List.flatMap_def]
  exact congrArg List.flatten (List.map_congr_left fun run hrun =>
    unmarked_marked (hplain run hrun))

/-- In the pieces of a text, each behind its marks, exactly the pairs of digits are read and
the pairs of a plus sign and a digit. So what is read are the bytes that the digits spell
unless the text is read in spite of a plus sign in it; and bytes are read from their digits,
in whatever runs and behind however many marks these are typed. -/
theorem readHex_strict_iff_unsigned (text : String) :
    (∀ bs, readHex text = .ok bs ↔
      Takes ((text.toList.splitOnP isBlank).flatMap unmarked) bs) ∧
    ((∀ bs, readHex text = .ok bs ↔
        Hex.Spells ((text.toList.splitOnP isBlank).flatMap unmarked) bs) ↔
      ¬('+' ∈ text.toList ∧ ∃ bs, readHex text = .ok bs)) ∧
    ∀ (runs : List (Nat × List Char)) (bs : Bytes),
      text.toList.splitOnP isBlank = runs.map marked → runs.flatMap (·.2) = Hex.digits bs →
        readHex text = .ok bs := by
  have hplus : '+' ∈ hexDigits text ↔ '+' ∈ text.toList :=
    mem_hexDigits (by decide) (by decide) (by decide)
  rw [← hexDigits_eq]
  refine ⟨fun _ => readHex_eq_ok_iff, ⟨?_, ?_⟩, ?_⟩
  · rintro hstrict ⟨hmem, bs, hread⟩
    obtain ⟨v, hvalue⟩ := ((hstrict bs).mp hread).hasValue (hplus.mpr hmem)
    exact ne_plus_of_hasValue hvalue rfl
  · intro hunsigned bs
    refine ⟨fun hread => ?_, fun hspells => readHex_eq_ok_iff.mpr (.of_spells hspells)⟩
    refine (readHex_eq_ok_iff.mp hread).spells fun hmem => hunsigned ⟨hplus.mp hmem, bs, hread⟩
  · intro runs bs hruns hdigits
    have hspells := Hex.spells_digits bs
    have hplain : ∀ run ∈ runs, 'x' ∉ run.2 := by
      intro run hrun hmem
      obtain ⟨v, hvalue⟩ := hspells.hasValue (hdigits ▸ List.mem_flatMap.mpr ⟨run, hrun, hmem⟩)
      cases Hex.digitValue?_of_hasValue hvalue
    rw [readHex_eq_ok_iff, hexDigits_of_runs hruns hplain, hdigits]
    exact .of_spells hspells

/-- Three bytes in two pieces, the second one behind two marks. -/
theorem readHex_strict_iff_unsigned_pieces :
    "0x4f6 0x0xb2e".toList.splitOnP isBlank =
      [(1, ['4', 'f', '6']), (2, ['b', '2', 'e'])].map marked ∧
    [(1, ['4', 'f', '6']), (2, ['b', '2', 'e'])].flatMap (·.2) = Hex.digits [0x4F, 0x6B, 0x2E] ∧
    readHex "0x4f6 0x0xb2e" = .ok [0x4F, 0x6B, 0x2E] := by
  have hruns : "0x4f6 0x0xb2e".toList.splitOnP isBlank =
      [(1, ['4', 'f', '6']), (2, ['b', '2', 'e'])].map marked := by decide +kernel
  have hdigits : [(1, ['4', 'f', '6']), (2, ['b', '2', 'e'])].flatMap (·.2) =
      Hex.digits [0x4F, 0x6B, 0x2E] := by decide +kernel
  exact ⟨hruns, hdigits, (readHex_strict_iff_unsigned _).2.2 _ _ hruns hdigits⟩

/-- A plus sign is taken for a digit, though it spells nothing. -/
theorem plus_sign_read :
    ¬∀ text bs, readHex text = .ok bs ↔
      Hex.Spells ((text.toList.splitOnP isBlank).flatMap unmarked) bs := by
  intro hstrict
  have hread : readHex "+1" = .ok [1] := rfl
  have hdigits : ("+1".toList.splitOnP isBlank).flatMap unmarked = ['+', '1'] := by decide +kernel
  have hspells := (hstrict "+1" [1]).mp hread
  rw [hdigits] at hspells
  obtain ⟨v, hvalue⟩ := hspells.hasValue List.mem_cons_self
  exact ne_plus_of_hasValue hvalue rfl

end CommandLine
end Meshwork
