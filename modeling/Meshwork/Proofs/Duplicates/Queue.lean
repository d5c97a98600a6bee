import Mathlib.Logic.Relation
import Meshwork.Duplicates
import Meshwork.Proofs.Association

/-!
# The memory and the queue of a tracker

Every stamp of the memory stands in the queue. The entries of one message lie a
window apart, and the last of them is the one that the memory has. While the clock
never goes back, the queue is in order of time. A tracker forgets by taking entries
off the front of the queue, and whatever one entry leaves as it is, all of them do.
-/

namespace Meshwork.DuplicateTracker
set_option autoImplicit false
open Association

/-- A message has one stamp at most, which stands in the queue. -/
structure Consistent (seen order : List (MessageKey × Nat)) : Prop where
  nodup : (keys seen).Nodup
  queued : ∀ e ∈ seen, e ∈ order

/-- What recording adds to that, whatever the clock does. -/
structure Apart (window : Nat) (seen order : List (MessageKey × Nat)) : Prop extends
    Consistent seen order where
  latest : ∀ e ∈ order, ∃ stamp, seen.lookup e.1 = some stamp ∧ e.2 ≤ stamp
  spaced : order.Pairwise fun a b => a.1 = b.1 → a.2 + window ≤ b.2

/-- What a clock that never goes back adds, up to the time `now`. -/
structure Orderly (window now : Nat) (seen order : List (MessageKey × Nat)) : Prop extends
    Consistent seen order where
  past : ∀ e ∈ order, e.2 ≤ now
  latest : ∀ e ∈ order, ∃ stamp, seen.lookup e.1 = some stamp ∧ e.2 ≤ stamp
  spaced : order.Pairwise fun a b => a.2 ≤ b.2 ∧ (a.1 = b.1 → a.2 + window ≤ b.2)

/-- The memory of a tracker and its queue. -/
abbrev Memory := List (MessageKey × Nat) × List (MessageKey × Nat)

/-- The front of the queue goes, and with it the message if the memory has it from there. -/
inductive Pop : Memory → Memory → Prop
  | current {seen order : List (MessageKey × Nat)} {e : MessageKey × Nat}
      (he : isCurrent seen e = true) : Pop (seen, e :: order) (eraseKey e.1 seen, order)
  | stale {seen order : List (MessageKey × Nat)} {e : MessageKey × Nat}
      (he : ¬isCurrent seen e = true) : Pop (seen, e :: order) (seen, order)

theorem mem_eraseKey {key : MessageKey} {seen : List (MessageKey × Nat)} {e : MessageKey × Nat} :
    e ∈ eraseKey key seen ↔ e ∈ seen ∧ e.1 ≠ key := by
  simp [eraseKey, List.mem_filter]

theorem isCurrent_iff {seen : List (MessageKey × Nat)} {e : MessageKey × Nat} :
    isCurrent seen e = true ↔ seen.lookup e.1 = some e.2 := by
  simp [isCurrent]

variable {window now : Nat} {seen order : List (MessageKey × Nat)} {e : MessageKey × Nat}

theorem consistent_nil : Consistent [] [] := ⟨List.nodup_nil, fun _ h => h⟩

theorem orderly_nil (window now : Nat) : Orderly window now [] [] :=
  ⟨consistent_nil, by simp, by simp, .nil⟩

theorem Consistent.pop_current (h : Consistent seen (e :: order)) :
    Consistent (eraseKey e.1 seen) order := by
  refine ⟨nodup_keys_filter h.nodup _, ?_⟩
  intro f hf
  obtain ⟨hseen, hne⟩ := mem_eraseKey.mp hf
  rcases List.mem_cons.mp (h.queued f hseen) with rfl | horder
  · exact absurd rfl hne
  · exact horder

theorem Consistent.pop_stale (h : Consistent seen (e :: order)) (he : ¬isCurrent seen e = true) :
    Consistent seen order := by
  refine ⟨h.nodup, ?_⟩
  intro f hf
  rcases List.mem_cons.mp (h.queued f hf) with rfl | horder
  · exact absurd (isCurrent_iff.mpr (lookup_of_mem h.nodup hf)) he
  · exact horder

theorem apart_nil (window : Nat) : Apart window [] [] :=
  ⟨consistent_nil, by simp, .nil⟩

theorem Orderly.apart (h : Orderly window now seen order) : Apart window seen order :=
  ⟨h.toConsistent, h.latest, h.spaced.imp And.right⟩

/-- Behind the entry that the memory has there is none of the same message. -/
theorem Apart.ne_of_current (h : Apart window seen (e :: order)) (hw : 1 ≤ window)
    (he : isCurrent seen e = true) : ∀ f ∈ order, f.1 ≠ e.1 := by
  intro f hf hkey
  obtain ⟨stamp, hstamp, hle⟩ := h.latest f (List.mem_cons_of_mem e hf)
  rw [hkey, isCurrent_iff.mp he] at hstamp
  have hspaced := (List.pairwise_cons.mp h.spaced).1 f hf hkey.symm
  have : e.2 = stamp := Option.some.inj hstamp
  omega

theorem Apart.pop_current (h : Apart window seen (e :: order)) (hw : 1 ≤ window)
    (he : isCurrent seen e = true) : Apart window (eraseKey e.1 seen) order where
  toConsistent := h.toConsistent.pop_current
  latest f hf := by
    obtain ⟨stamp, hstamp, hle⟩ := h.latest f (List.mem_cons_of_mem e hf)
    refine ⟨stamp, ?_, hle⟩
    rw [eraseKey, lookup_filter_ne (h.ne_of_current hw he f hf)]
    exact hstamp
  spaced := (List.pairwise_cons.mp h.spaced).2

theorem Apart.pop_stale (h : Apart window seen (e :: order)) (he : ¬isCurrent seen e = true) :
    Apart window seen order where
  toConsistent := h.toConsistent.pop_stale he
  latest f hf := h.latest f (List.mem_cons_of_mem e hf)
  spaced := (List.pairwise_cons.mp h.spaced).2

theorem Orderly.pop_current (h : Orderly window now seen (e :: order)) (hw : 1 ≤ window)
    (he : isCurrent seen e = true) : Orderly window now (eraseKey e.1 seen) order where
  toConsistent := h.toConsistent.pop_current
  past f hf := h.past f (List.mem_cons_of_mem e hf)
  latest := (h.apart.pop_current hw he).latest
  spaced := (List.pairwise_cons.mp h.spaced).2

theorem Orderly.pop_stale (h : Orderly window now seen (e :: order))
    (he : ¬isCurrent seen e = true) : Orderly window now seen order where
  toConsistent := h.toConsistent.pop_stale he
  past f hf := h.past f (List.mem_cons_of_mem e hf)
  latest := (h.apart.pop_stale he).latest
  spaced := (List.pairwise_cons.mp h.spaced).2

theorem Orderly.mono {later : Nat} (h : Orderly window now seen order) (hle : now ≤ later) :
    Orderly window later seen order :=
  { h with past := fun e he => Nat.le_trans (h.past e he) hle }

/-! ## Forgetting entry by entry -/

variable {m m' : Memory}

theorem Consistent.pop (hpop : Pop m m') (h : Consistent m.1 m.2) : Consistent m'.1 m'.2 := by
  cases hpop with
  | current _ => exact h.pop_current
  | stale he => exact h.pop_stale he

theorem Apart.pop (hw : 1 ≤ window) (hpop : Pop m m') (h : Apart window m.1 m.2) :
    Apart window m'.1 m'.2 := by
  cases hpop with
  | current he => exact Apart.pop_current h hw he
  | stale he => exact Apart.pop_stale h he

theorem Orderly.pop (hw : 1 ≤ window) (hpop : Pop m m') (h : Orderly window now m.1 m.2) :
    Orderly window now m'.1 m'.2 := by
  cases hpop with
  | current he => exact Orderly.pop_current h hw he
  | stale he => exact Orderly.pop_stale h he

/-- What one entry that goes leaves as it is, any number of them leave so. -/
theorem keep_of_pops {P : List (MessageKey × Nat) → List (MessageKey × Nat) → Prop}
    (hpop : ∀ {m m' : Memory}, Pop m m' → P m.1 m.2 → P m'.1 m'.2)
    (hpops : Relation.ReflTransGen Pop m m') (h : P m.1 m.2) : P m'.1 m'.2 := by
  induction hpops with
  | refl => exact h
  | tail _ hlast ih => exact hpop hlast ih

theorem pops_trim (capacity : Nat) (seen order : List (MessageKey × Nat)) :
    Relation.ReflTransGen Pop (seen, order) (trim capacity seen order) := by
  induction order generalizing seen with
  | nil => exact .refl
  | cons e order ih =>
    unfold trim
    split
    · exact .refl
    · split
      · rename_i he
        exact .head (.current he) (ih _)
      · rename_i he
        exact .head (.stale he) (ih seen)

theorem pops_dropExpired (window time removed : Nat) (seen order : List (MessageKey × Nat)) :
    Relation.ReflTransGen Pop (seen, order)
      ((dropExpired window time seen order removed).1,
        (dropExpired window time seen order removed).2.1) := by
  induction order generalizing seen removed with
  | nil => exact .refl
  | cons e order ih =>
    unfold dropExpired
    split
    · exact .refl
    · split
      · rename_i he
        exact .head (.current he) (ih _ _)
      · rename_i he
        exact .head (.stale he) (ih removed seen)

theorem apart_trim (hw : 1 ≤ window) (capacity : Nat) (h : Apart window seen order) :
    Apart window (trim capacity seen order).1 (trim capacity seen order).2 :=
  keep_of_pops (Apart.pop hw) (pops_trim capacity seen order) h

theorem apart_dropExpired (hw : 1 ≤ window) (time removed : Nat) (h : Apart window seen order) :
    Apart window (dropExpired window time seen order removed).1
      (dropExpired window time seen order removed).2.1 :=
  keep_of_pops (Apart.pop hw) (pops_dropExpired window time removed seen order) h

theorem orderly_trim (hw : 1 ≤ window) (capacity : Nat) (h : Orderly window now seen order) :
    Orderly window now (trim capacity seen order).1 (trim capacity seen order).2 :=
  keep_of_pops (Orderly.pop hw) (pops_trim capacity seen order) h

theorem orderly_dropExpired (hw : 1 ≤ window) (time removed : Nat)
    (h : Orderly window now seen order) :
    Orderly window now (dropExpired window time seen order removed).1
      (dropExpired window time seen order removed).2.1 :=
  keep_of_pops (Orderly.pop hw) (pops_dropExpired window time removed seen order) h

/-! ## Recording -/

theorem Consistent.push {key : MessageKey} (h : Consistent seen order) :
    Consistent ((key, now) :: eraseKey key seen) (order ++ [(key, now)]) where
  nodup := List.nodup_cons.mpr ⟨not_mem_keys_filter key seen, nodup_keys_filter h.nodup _⟩
  queued f hf := by
    rcases List.mem_cons.mp hf with rfl | hf
    · exact List.mem_append_right _ (List.mem_singleton.mpr rfl)
    · exact List.mem_append_left _ (h.queued f (mem_eraseKey.mp hf).1)

/-- Recording a message that was not seen within the window. -/
theorem Apart.push {key : MessageKey} (h : Apart window seen order) (hw : 1 ≤ window)
    (hnew : ∀ stamp, seen.lookup key = some stamp → window ≤ now - stamp) :
    Apart window ((key, now) :: eraseKey key seen) (order ++ [(key, now)]) := by
  have hearlier : ∀ f ∈ order, f.1 = key → f.2 + window ≤ now := by
    intro f hf hkey
    obtain ⟨stamp, hstamp, hle⟩ := h.latest f hf
    rw [hkey] at hstamp
    have hexpired := hnew stamp hstamp
    omega
  refine ⟨h.toConsistent.push, ?_, ?_⟩
  · intro f hf
    by_cases hkey : f.1 = key
    · refine ⟨now, by rw [hkey, List.lookup_cons_self], ?_⟩
      rcases List.mem_append.mp hf with hf | hf
      · exact Nat.le_of_add_right_le (hearlier f hf hkey)
      · exact Nat.le_of_eq (congrArg Prod.snd (List.mem_singleton.mp hf))
    · rcases List.mem_append.mp hf with hf | hf
      · obtain ⟨stamp, hstamp, hle⟩ := h.latest f hf
        refine ⟨stamp, ?_, hle⟩
        rw [List.lookup_cons, beq_false_of_ne hkey, eraseKey, lookup_filter_ne hkey]
        exact hstamp
      · exact absurd (by rw [List.mem_singleton.mp hf]) hkey
  · refine List.pairwise_append.mpr ⟨h.spaced, List.pairwise_singleton _ _, ?_⟩
    intro f hf g hg hkey
    rw [List.mem_singleton.mp hg] at hkey ⊢
    exact hearlier f hf hkey

theorem Orderly.push {key : MessageKey} (h : Orderly window now seen order) (hw : 1 ≤ window)
    (hnew : ∀ stamp, seen.lookup key = some stamp → window ≤ now - stamp) :
    Orderly window now ((key, now) :: eraseKey key seen) (order ++ [(key, now)]) where
  toConsistent := h.toConsistent.push
  past f hf := by
    rcases List.mem_append.mp hf with hf | hf
    · exact h.past f hf
    · exact Nat.le_of_eq (congrArg Prod.snd (List.mem_singleton.mp hf))
  latest := (h.apart.push hw hnew).latest
  spaced := by
    have hapart := (h.apart.push hw hnew).spaced
    refine List.pairwise_append.mpr ⟨h.spaced, List.pairwise_singleton _ _, ?_⟩
    intro f hf g hg
    refine ⟨?_, (List.pairwise_append.mp hapart).2.2 f hf g hg⟩
    rw [List.mem_singleton.mp hg]
    exact h.past f hf

end Meshwork.DuplicateTracker
