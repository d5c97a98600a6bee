import Meshwork.Proofs.Duplicates.Log
import Meshwork.Proofs.Duplicates.Room

/-!
# A tracker that is swept in time

Only the memory is cut to its size. A message that is recorded again leaves its old
entry in the queue, and a tracker that nobody sweeps may gather such entries for ever.
When it is swept whenever the clock has moved, before anything is observed, a message
whose time is over has lost its entry before it can be recorded again: every entry of
the queue counts, and the queue is as short as the memory.
-/

namespace Meshwork.DuplicateTracker
set_option autoImplicit false
open Association

/-- From the time `now` on the clock does not go back, and when it has moved the first
that happens is a sweep. -/
inductive Swept : Nat → List Event → Prop
  | nil (now : Nat) : Swept now []
  | observe {now : Nat} {key : MessageKey} {events : List Event} (h : Swept now events) :
      Swept now (.observe key now :: events)
  | evict {now time : Nat} {events : List Event} (hle : now ≤ time) (h : Swept time events) :
      Swept now (.evict time :: events)

/-- A queue in order of time all of which counts. -/
structure Tidy (window now : Nat) (seen order : List (MessageKey × Nat)) : Prop extends
    Orderly window now seen order where
  counts : ∀ e ∈ order, isCurrent seen e = true

/-- A tidy queue in which nothing is past the window. -/
structure Recent (window now : Nat) (seen order : List (MessageKey × Nat)) : Prop extends
    Tidy window now seen order where
  recent : ∀ e ∈ order, now - e.2 < window

def IsRecent (t : DuplicateTracker) (now : Nat) : Prop := Recent t.window now t.seen t.order

variable {window now time capacity : Nat} {key : MessageKey} {m m' : Memory}
variable {seen order : List (MessageKey × Nat)} {t : DuplicateTracker} {events later : List Event}

theorem Swept.of_append (h : Swept now (events ++ later)) : Swept now events := by
  induction events generalizing now with
  | nil => exact .nil now
  | cons e events ih =>
    cases h with
    | observe h => exact .observe (ih h)
    | evict hle h => exact .evict hle (ih h)

/-! ## What goes off the front -/

theorem Tidy.pop (hw : 1 ≤ window) (hpop : Pop m m') (h : Tidy window now m.1 m.2) :
    Tidy window now m'.1 m'.2 := by
  refine ⟨h.toOrderly.pop hw hpop, ?_⟩
  cases hpop with
  | @current seen order e he =>
    intro f hf
    -- the message that goes has no entry behind its current one
    have hne : f.1 ≠ e.1 := h.apart.ne_of_current hw he f hf
    rw [isCurrent_erase hne]
    exact h.counts f (List.mem_cons_of_mem e hf)
  | @stale seen order e he => exact absurd (h.counts e List.mem_cons_self) he

theorem Recent.pop (hw : 1 ≤ window) (hpop : Pop m m') (h : Recent window now m.1 m.2) :
    Recent window now m'.1 m'.2 := by
  refine ⟨h.toTidy.pop hw hpop, ?_⟩
  cases hpop with
  | current _ | stale _ => exact fun f hf => h.recent f (List.mem_cons_of_mem _ hf)

theorem recent_nil (window now : Nat) : Recent window now [] [] :=
  ⟨⟨orderly_nil window now, by simp⟩, by simp⟩

theorem Tidy.live_eq (h : Tidy window now seen order) : live seen order = order :=
  List.filter_eq_self.mpr h.counts

/-- After a sweep nothing is past the window, however long ago the last one was. -/
theorem recent_dropExpired (h : Tidy window now seen order) (hw : 1 ≤ window) (hle : now ≤ time) :
    Recent window time (dropExpired window time seen order 0).1
      (dropExpired window time seen order 0).2.1 := by
  have hrest : Tidy window now (dropExpired window time seen order 0).1
      (dropExpired window time seen order 0).2.1 :=
    keep_of_pops (Tidy.pop hw) (pops_dropExpired window time 0 seen order) h
  refine ⟨⟨hrest.toOrderly.mono hle, hrest.counts⟩, ?_⟩
  intro e he
  -- what is left of a queue that counts is what was recent in it
  rw [← hrest.live_eq, live_dropExpired hw time 0 h.toOrderly] at he
  exact of_decide_eq_true (List.mem_filter.mp he).2

/-! ## What is recorded -/

/-- Where all is recent, a message that is not known has no stamp. -/
theorem Recent.lookup_of_new (h : Recent window now seen order)
    (hnew : ∀ stamp, seen.lookup key = some stamp → window ≤ now - stamp) :
    seen.lookup key = none := by
  cases hstamp : seen.lookup key with
  | none => rfl
  | some stamp =>
    have hrecent := h.recent (key, stamp) (h.queued _ (mem_of_lookup hstamp))
    exact absurd (hnew stamp hstamp) (Nat.not_le_of_lt hrecent)

theorem Recent.push (h : Recent window now seen order) (hw : 1 ≤ window)
    (hnew : ∀ stamp, seen.lookup key = some stamp → window ≤ now - stamp) :
    Recent window now ((key, now) :: eraseKey key seen) (order ++ [(key, now)]) := by
  refine ⟨⟨h.toOrderly.push hw hnew, ?_⟩, ?_⟩
  · intro f hf
    rcases List.mem_append.mp hf with hf | hf
    · have hcurrent := h.counts f hf
      -- an entry of the same message would be recent, and the message be known
      have hne : f.1 ≠ key := by
        rintro rfl
        have hstamp := isCurrent_iff.mp hcurrent
        rw [h.lookup_of_new hnew] at hstamp
        cases hstamp
      rw [isCurrent, List.lookup_cons, beq_false_of_ne hne, eraseKey, lookup_filter_ne hne]
      exact hcurrent
    · rw [List.mem_singleton.mp hf]
      exact isCurrent_iff.mpr List.lookup_cons_self
  · intro f hf
    rcases List.mem_append.mp hf with hf | hf
    · exact h.recent f hf
    · rw [List.mem_singleton.mp hf, Nat.sub_self]
      exact hw

/-! ## A whole run -/

theorem IsRecent.observe (h : t.IsRecent now) (hw : 1 ≤ t.window) (key : MessageKey) :
    (t.observe key now).2.IsRecent now := by
  refine keep_observe (P := (·.IsRecent now)) h fun hnew => ?_
  have hpush := Recent.push h hw fun _ hstamp => expired_of_not_contains hnew hstamp
  exact keep_of_pops (Recent.pop hw) (pops_trim t.capacity _ _) hpush

theorem IsRecent.evict (h : t.IsRecent now) (hw : 1 ≤ t.window) (hle : now ≤ time) :
    (t.evictExpired time).2.IsRecent time :=
  recent_dropExpired h.toTidy hw hle

theorem IsRecent.run (h : t.IsRecent now) (hw : 1 ≤ t.window) (hswept : Swept now events) :
    ∃ time, (t.run events).IsRecent time := by
  induction hswept generalizing t with
  | nil now => exact ⟨now, h⟩
  | @observe now key events _ ih =>
    have hwindow : (t.observe key now).2.window = t.window :=
      Event.apply_window t (.observe key now)
    exact ih (h.observe hw key) (hwindow.symm ▸ hw)
  | @evict now time events hle _ ih => exact ih (h.evict hw hle) hw

/-- Where the tracker is swept whenever the clock has moved, the queue has what the memory
has after every call: every message once, with its stamp, and nothing else. So it is never
longer than the memory may be, and no entry is left behind that does not count. -/
theorem swept_queue_is_memory (window capacity start : Nat) (events later : List Event)
    (hw : 1 ≤ window) (hc : 1 ≤ capacity) (h : Swept start (events ++ later)) :
    let t := (create window capacity).run events
    t.order.Perm t.seen ∧ (keys t.order).Nodup ∧ t.order.length ≤ capacity ∧
      ∀ e ∈ t.order, isCurrent t.seen e = true := by
  intro t
  have hwindow : t.window = window := run_window _ events
  have hcapacity : t.capacity = capacity := (run_capacity _ events).trans (Nat.max_eq_left hc)
  obtain ⟨now, hrecent⟩ : ∃ now, t.IsRecent now :=
    IsRecent.run (recent_nil window start) hw h.of_append
  have hperm : t.order.Perm t.seen := by
    rw [← hrecent.live_eq]
    exact perm_live hrecent.apart (hwindow.symm ▸ hw)
  have hsize : t.size ≤ t.capacity := ((isBounded_create window capacity).run events).size
  refine ⟨hperm, ?_, ?_, hrecent.counts⟩
  · exact (hperm.map Prod.fst).nodup_iff.mpr hrecent.nodup
  · rw [hperm.length_eq, ← hcapacity]
    exact hsize

/-- A message runs out of time and is recorded again, with no room for a third. -/
def sweptEvents : List Event :=
  [.observe (⟨7⟩, 1) 0, .evict 3, .observe (⟨7⟩, 2) 3, .evict 5, .observe (⟨7⟩, 1) 5,
    .observe (⟨7⟩, 3) 5]

theorem swept_queue_is_memory_again :
    1 ≤ 5 ∧ 1 ≤ 2 ∧ Swept 0 (sweptEvents ++ [.evict 9]) ∧
      ((create 5 2).run sweptEvents).order.Perm ((create 5 2).run sweptEvents).seen ∧
      ((create 5 2).run sweptEvents).order.length ≤ 2 := by
  have hswept : Swept 0 (sweptEvents ++ [.evict 9]) :=
    .observe (.evict (by decide) (.observe (.evict (by decide)
      (.observe (.observe (.evict (by decide) (.nil 9)))))))
  have h := swept_queue_is_memory 5 2 0 sweptEvents [.evict 9] (by decide) (by decide) hswept
  exact ⟨by decide, by decide, hswept, h.1, h.2.2.1⟩

/-- Without the sweep the same message stands in the queue twice. -/
example : ((create 5 1).run [.observe (⟨7⟩, 1) 0, .observe (⟨7⟩, 1) 5]).order =
    [((⟨7⟩, 1), 0), ((⟨7⟩, 1), 5)] := by
  decide

end Meshwork.DuplicateTracker
