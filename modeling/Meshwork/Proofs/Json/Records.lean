import Meshwork.Json
import Meshwork.Proofs.Association

/-!
# Records in JSON

An object in which no name is given twice gives every field that it names, in whatever
order, and no other. Bytes are given one by one.
-/

namespace Meshwork
set_option autoImplicit false

namespace Json

/-! ## Fields -/

theorem member?_eq_lookup {members : List (Bytes × Json)}
    (h : (Association.keys members).Nodup) (name : Bytes) :
    member? name members = some (members.lookup name) := by
  induction members with
  | nil => rfl
  | cons m members ih =>
    obtain ⟨other, v⟩ := m
    obtain ⟨hhead, htail⟩ := List.nodup_cons.mp h
    by_cases hsame : other = name
    · subst hsame
      have hrest : members.filter (·.1 == other) = [] := by
        rw [List.filter_eq_nil_iff]
        intro e he hname
        have hmem : e.1 ∈ Association.keys members := List.mem_map.mpr ⟨e, he, rfl⟩
        rw [beq_iff_eq] at hname
        rw [hname] at hmem
        exact hhead hmem
      have hfound : ((other, v) :: members).filter (·.1 == other) = [(other, v)] := by
        rw [List.filter_cons, hrest]
        exact if_pos (beq_self_eq_true other)
      unfold member?
      rw [hfound, List.lookup_cons_self]
    · have hrest := ih htail
      have hskip : (other == name) = false := beq_false_of_ne hsame
      have hother : (name == other) = false := beq_false_of_ne (Ne.symm hsame)
      unfold member? at hrest ⊢
      rw [List.filter_cons_of_neg (by rw [hskip]; exact nofun), List.lookup_cons, hother]
      exact hrest

theorem mapM_eq_some {α β : Type} {f : α → Option β} {g : α → β} {l : List α}
    (h : ∀ a ∈ l, f a = some (g a)) : l.mapM f = some (l.map g) := by
  induction l with
  | nil => rfl
  | cons a l ih =>
    rw [List.mapM_cons, h a List.mem_cons_self,
      ih fun b hb => h b (List.mem_cons_of_mem a hb)]
    rfl

theorem record?_object {members : List (Bytes × Json)} (names : List Bytes)
    (hnodup : (Association.keys members).Nodup)
    (htext : ∀ name ∈ Association.keys members, name.text?.isSome = true) :
    (object members).record? names = some (names.map fun name => members.lookup name) := by
  have hall : members.all (fun m => m.1.text?.isSome) = true := by
    rw [List.all_eq_true]
    intro m hm
    exact htext m.1 (List.mem_map_of_mem hm)
  have hrecord : (object members).record? names =
      if members.all (fun m => m.1.text?.isSome) then names.mapM (member? · members)
      else none := rfl
  rw [hrecord, if_pos hall]
  exact mapM_eq_some fun name _ => member?_eq_lookup hnodup name

theorem keys_zip {names : List Bytes} {values : List Json} (h : names.length = values.length) :
    Association.keys (names.zip values) = names :=
  List.map_fst_zip (Nat.le_of_eq h)

theorem map_lookup_zip {names : List Bytes} {values : List Json} (hnodup : names.Nodup)
    (hlength : names.length = values.length) :
    (names.map fun name => (names.zip values).lookup name) = values.map some := by
  induction names generalizing values with
  | nil =>
    cases values with
    | nil => rfl
    | cons v values => cases hlength
  | cons name names ih =>
    cases values with
    | nil => cases hlength
    | cons v values =>
      obtain ⟨hhead, htail⟩ := List.nodup_cons.mp hnodup
      rw [List.map_cons, List.map_cons, ← ih htail (Nat.succ.inj hlength), List.zip_cons_cons,
        List.lookup_cons_self]
      refine congrArg (some v :: ·) (List.map_congr_left fun other hother => ?_)
      have hne : (other == name) = false := by
        apply beq_false_of_ne
        rintro rfl
        exact hhead hother
      rw [List.lookup_cons, hne]

/-- A record that gives its fields in order is read in order. -/
theorem record?_zip {names : List Bytes} {values : List Json} (hnodup : names.Nodup)
    (htext : ∀ name ∈ names, name.text?.isSome = true) (hlength : names.length = values.length) :
    (object (names.zip values)).record? names = some (values.map some) := by
  have hkeys := keys_zip hlength
  rw [record?_object names (by rw [hkeys]; exact hnodup) (by rw [hkeys]; exact htext),
    map_lookup_zip hnodup hlength]

/-! ## Numbers and bytes -/

theorem natBelow?_integer {n bound : Nat} (h : n < bound) :
    (integer n).natBelow? bound = some n := by
  have hbound : (0 : Int) ≤ (n : Int) ∧ (n : Int) < (bound : Int) := by omega
  unfold natBelow? int?
  simp only
  rw [if_pos hbound, Int.toNat_natCast]

theorem byte?_integer (b : UInt8) : (integer b.toNat).byte? = some b := by
  unfold byte?
  rw [natBelow?_integer b.toNat_lt, Option.map_some, UInt8.ofNat_toNat]

theorem word64?_integer (w : UInt64) : (integer w.toNat).word64? = some w := by
  unfold word64?
  rw [natBelow?_integer w.toNat_lt, Option.map_some, UInt64.ofNat_toNat]

theorem block?_ofBytes {len : Nat} (bs : Bytes.Block len) :
    (ofBytes bs.val).block? len = some bs := by
  have hbytes : (bs.val.map fun b => integer b.toNat).mapM byte? = some bs.val := by
    induction bs.val with
    | nil => rfl
    | cons b bs ih =>
      rw [List.map_cons, List.mapM_cons, byte?_integer, ih]
      rfl
  unfold block? ofBytes array?
  simp only
  rw [hbytes]
  change Bytes.block? len bs.val = some bs
  unfold Bytes.block?
  rw [dif_pos bs.property]

end Json
end Meshwork
