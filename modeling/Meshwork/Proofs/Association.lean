/-!
# Association lists

Stores of the library are lists of pairs in which a key is erased by filtering.
What that does to looking keys up is said here once.
-/

namespace Meshwork.Association
set_option autoImplicit false

variable {α β : Type}

def keys (l : List (α × β)) : List α := l.map Prod.fst

theorem mem_keys {l : List (α × β)} {k : α} {v : β} (h : (k, v) ∈ l) : k ∈ keys l :=
  List.mem_map.mpr ⟨(k, v), h, rfl⟩

theorem nodup_keys_filter {l : List (α × β)} (hl : (keys l).Nodup) (p : α × β → Bool) :
    (keys (l.filter p)).Nodup :=
  hl.sublist (List.filter_sublist.map Prod.fst)

variable [BEq α] [LawfulBEq α]

@[simp] theorem lookup_filter_self (k : α) (l : List (α × β)) :
    (l.filter (·.1 != k)).lookup k = none := by
  rw [List.lookup_eq_none_iff]
  intro e he
  have hne := (List.mem_filter.mp he).2
  simpa using fun h : k = e.1 => by simp [h] at hne

theorem lookup_filter_ne {k k' : α} (h : k' ≠ k) (l : List (α × β)) :
    (l.filter (·.1 != k)).lookup k' = l.lookup k' := by
  induction l with
  | nil => rfl
  | cons e l ih =>
    obtain ⟨key, value⟩ := e
    by_cases hk : key = k
    · subst hk
      rw [List.filter_cons_of_neg (by simp), ih, List.lookup_cons, beq_false_of_ne h]
    · rw [List.filter_cons_of_pos (by simpa using hk), List.lookup_cons, List.lookup_cons, ih]

theorem lookup_of_mem {k : α} {v : β} {l : List (α × β)} (hl : (keys l).Nodup)
    (h : (k, v) ∈ l) : l.lookup k = some v := by
  induction l with
  | nil => cases h
  | cons e l ih =>
    obtain ⟨hhead, htail⟩ := List.nodup_cons.mp hl
    rcases List.mem_cons.mp h with rfl | h
    · exact List.lookup_cons_self
    · have hne : (k == e.1) = false := by
        apply beq_false_of_ne
        rintro rfl
        exact hhead (mem_keys h)
      rw [List.lookup_cons, hne]
      exact ih htail h

theorem mem_of_lookup {k : α} {v : β} {l : List (α × β)} (h : l.lookup k = some v) :
    (k, v) ∈ l := by
  induction l with
  | nil => cases h
  | cons e l ih =>
    rw [List.lookup_cons] at h
    cases he : k == e.1 with
    | true =>
      rw [he] at h
      rw [eq_of_beq he, ← Option.some.inj h]
      exact List.mem_cons_self
    | false =>
      rw [he] at h
      exact List.mem_cons_of_mem _ (ih h)

theorem not_mem_keys_filter (k : α) (l : List (α × β)) : k ∉ keys (l.filter (·.1 != k)) := by
  intro h
  obtain ⟨e, he, rfl⟩ := List.mem_map.mp h
  simpa using (List.mem_filter.mp he).2

theorem length_filter_of_lookup {k : α} {v : β} {l : List (α × β)} (hl : (keys l).Nodup)
    (h : l.lookup k = some v) : (l.filter (·.1 != k)).length + 1 = l.length := by
  induction l with
  | nil => cases h
  | cons e l ih =>
    obtain ⟨hhead, htail⟩ := List.nodup_cons.mp hl
    rw [List.lookup_cons] at h
    cases he : k == e.1 with
    | true =>
      have hk : k = e.1 := eq_of_beq he
      have hkeep : l.filter (·.1 != k) = l := by
        apply List.filter_eq_self.mpr
        intro f hf
        have hne : f.1 ≠ k := fun h => hhead (hk ▸ h ▸ mem_keys hf)
        simpa using hne
      rw [List.filter_cons_of_neg (by simp [hk]), hkeep, List.length_cons]
    | false =>
      rw [he] at h
      have hne : e.1 ≠ k := fun hk => by simp [hk] at he
      rw [List.filter_cons_of_pos (by simpa using hne), List.length_cons, List.length_cons,
        ih htail h]

theorem countP_filter_of_lookup {k : α} {v : β} {l : List (α × β)} {p : α × β → Bool}
    (h : l.lookup k = some v) (hp : p (k, v) = true) :
    (l.filter (·.1 != k)).countP p + 1 ≤ l.countP p := by
  rw [List.countP_eq_countP_filter_add l p (·.1 != k)]
  refine Nat.add_le_add_left (List.countP_pos_iff.mpr ⟨(k, v), ?_, hp⟩) _
  rw [List.mem_filter]
  exact ⟨mem_of_lookup h, by simp⟩

end Meshwork.Association
