import Meshwork.Proofs.Duplicates.Retention

/-!
# A tracker as a list of messages

A tracker can be told without its queue: a list that has every message once, in the
order of recording, from which a message goes when its time is over or when the list
is too long. The list is what is left of the queue without the entries that no longer
count. While the clock never goes back nobody can tell the two apart.
-/

namespace Meshwork.DuplicateTracker
set_option autoImplicit false
open Association

/-- Messages with the times of their recording, oldest first. -/
structure Log where
  entries : List (MessageKey × Nat)
  distinct : (keys entries).Nodup

namespace Log

def empty : Log := ⟨[], List.nodup_nil⟩

/-- Whether a message is listed with a time within the window. -/
def holds (window : Nat) (log : Log) (key : MessageKey) (now : Nat) : Bool :=
  log.entries.any fun e => e.1 == key && decide (now - e.2 < window)

/-- A message goes to the end of the list, wherever it stood. -/
def moveToEnd (log : Log) (key : MessageKey) (now : Nat) : Log where
  entries := log.entries.filter (·.1 != key) ++ [(key, now)]
  distinct := by
    rw [keys, List.map_append]
    refine List.nodup_append.mpr ⟨nodup_keys_filter log.distinct _, List.pairwise_singleton _ _, ?_⟩
    rintro k hk last hlast rfl
    rw [List.mem_singleton.mp hlast] at hk
    exact not_mem_keys_filter key log.entries hk

/-- What is left when the list is cut from the front until it fits. -/
def cutTo (capacity : Nat) (log : Log) : Log where
  entries := log.entries.drop (log.entries.length - capacity)
  distinct := log.distinct.sublist ((List.drop_sublist _ _).map Prod.fst)

def observe (window capacity : Nat) (log : Log) (key : MessageKey) (now : Nat) :
    Observation × Log :=
  if log.holds window key now then (.duplicate, log)
  else (.fresh, (log.moveToEnd key now).cutTo capacity)

/-- Removes what is past the window, and counts it. -/
def evictExpired (window : Nat) (log : Log) (now : Nat) : Nat × Log :=
  (log.entries.countP fun e => decide (window ≤ now - e.2),
    { entries := log.entries.filter fun e => decide (now - e.2 < window)
      distinct := nodup_keys_filter log.distinct _ })

end Log

/-- What a tracker can be asked. -/
inductive Query where
  | observe (key : MessageKey) (now : Nat)
  | contains (key : MessageKey) (now : Nat)
  | evict (now : Nat)

inductive Answer where
  | observed (observation : Observation)
  | contained (found : Bool)
  | evicted (count : Nat)
deriving DecidableEq

def Query.time : Query → Nat
  | .observe _ now => now
  | .contains _ now => now
  | .evict now => now

def ask (t : DuplicateTracker) : Query → Answer × DuplicateTracker
  | .observe key now => (.observed (t.observe key now).1, (t.observe key now).2)
  | .contains key now => (.contained (t.contains key now), t)
  | .evict now => (.evicted (t.evictExpired now).1, (t.evictExpired now).2)

/-- What a tracker answers to one query after the other, and its size after each. -/
def answers (t : DuplicateTracker) : List Query → List (Answer × Nat)
  | [] => []
  | q :: queries => ((t.ask q).1, (t.ask q).2.size) :: (t.ask q).2.answers queries

namespace Log

def ask (window capacity : Nat) (log : Log) : Query → Answer × Log
  | .observe key now =>
    (.observed (log.observe window capacity key now).1, (log.observe window capacity key now).2)
  | .contains key now => (.contained (log.holds window key now), log)
  | .evict now => (.evicted (log.evictExpired window now).1, (log.evictExpired window now).2)

def answers (window capacity : Nat) (log : Log) : List Query → List (Answer × Nat)
  | [] => []
  | q :: queries =>
    ((log.ask window capacity q).1, (log.ask window capacity q).2.entries.length) ::
      (log.ask window capacity q).2.answers window capacity queries

end Log

/-! ## The entries that count -/

/-- The queue without the entries that no longer count. -/
def live (seen order : List (MessageKey × Nat)) : List (MessageKey × Nat) :=
  order.filter (isCurrent seen)

variable {window now : Nat} {key : MessageKey} {e : MessageKey × Nat}
variable {seen order : List (MessageKey × Nat)}

theorem mem_live (h : Consistent seen order) : e ∈ live seen order ↔ e ∈ seen := by
  constructor
  · intro he
    exact mem_of_lookup (isCurrent_iff.mp (List.mem_filter.mp he).2)
  · intro he
    exact List.mem_filter.mpr ⟨h.queued e he, isCurrent_iff.mpr (lookup_of_mem h.nodup he)⟩

theorem Apart.nodup_order (h : Apart window seen order) (hw : 1 ≤ window) : order.Nodup := by
  refine h.spaced.imp ?_
  intro a b hab heq
  have hspace := hab (congrArg Prod.fst heq)
  rw [heq] at hspace
  omega

theorem perm_live (h : Apart window seen order) (hw : 1 ≤ window) :
    (live seen order).Perm seen := by
  have hseen : seen.Nodup :=
    (List.pairwise_map.mp h.toConsistent.nodup).imp fun hkeys heq => hkeys (congrArg Prod.fst heq)
  have hlive : (live seen order).Nodup := (h.nodup_order hw).filter _
  exact (List.perm_ext_iff_of_nodup hlive hseen).mpr fun _ => mem_live h.toConsistent

theorem length_live (h : Apart window seen order) (hw : 1 ≤ window) :
    (live seen order).length = seen.length :=
  (perm_live h hw).length_eq

theorem live_cons_current (he : isCurrent seen e = true) :
    live seen (e :: order) = e :: live seen order :=
  List.filter_cons_of_pos he

theorem live_cons_stale (he : ¬isCurrent seen e = true) :
    live seen (e :: order) = live seen order :=
  List.filter_cons_of_neg he

theorem isCurrent_erase (hne : e.1 ≠ key) : isCurrent (eraseKey key seen) e = isCurrent seen e := by
  rw [isCurrent, isCurrent, eraseKey, lookup_filter_ne hne]

/-- Behind an entry that counts, what else counts does not depend on it. -/
theorem live_pop (h : Apart window seen (e :: order)) (hw : 1 ≤ window)
    (he : isCurrent seen e = true) : live (eraseKey e.1 seen) order = live seen order := by
  refine List.filter_congr ?_
  intro f hf
  exact isCurrent_erase (h.ne_of_current hw he f hf)

theorem live_trim (hw : 1 ≤ window) (capacity : Nat) (h : Apart window seen order) :
    live (trim capacity seen order).1 (trim capacity seen order).2 =
      (live seen order).drop ((live seen order).length - capacity) := by
  induction order generalizing seen with
  | nil => exact List.drop_nil.symm
  | cons e order ih =>
    unfold trim
    split
    · rename_i hfits
      rw [length_live h hw, Nat.sub_eq_zero_of_le hfits, List.drop_zero]
    rename_i hfull
    split
    · rename_i he
      have hlength := length_live h hw
      rw [live_cons_current he, List.length_cons] at hlength
      have hmore : (live seen order).length + 1 - capacity =
          (live seen order).length - capacity + 1 := by omega
      rw [ih (h.pop_current hw he), live_pop h hw he, live_cons_current he, List.length_cons,
        hmore, List.drop_succ_cons]
    · rename_i he
      rw [ih (h.pop_stale he), live_cons_stale he]

/-- In a queue that is in order of time, all is recent behind an entry that is. -/
theorem Orderly.recent {time : Nat} (h : Orderly window now seen (e :: order))
    (he : time - e.2 < window) : ∀ f ∈ live seen (e :: order), time - f.2 < window := by
  intro f hf
  rcases List.mem_cons.mp (List.mem_filter.mp hf).1 with rfl | hbehind
  · exact he
  · have hlater := ((List.pairwise_cons.mp h.spaced).1 f hbehind).1
    omega

theorem live_dropExpired (hw : 1 ≤ window) (time removed : Nat)
    (h : Orderly window now seen order) :
    live (dropExpired window time seen order removed).1
        (dropExpired window time seen order removed).2.1 =
      (live seen order).filter (fun e => decide (time - e.2 < window)) := by
  induction order generalizing seen removed with
  | nil => rfl
  | cons e order ih =>
    unfold dropExpired
    split
    · rename_i hrecent
      refine (List.filter_eq_self.mpr ?_).symm
      intro f hf
      exact decide_eq_true (h.recent hrecent f hf)
    rename_i hexpired
    split
    · rename_i he
      rw [ih _ (h.pop_current hw he), live_pop h.apart hw he, live_cons_current he,
        List.filter_cons_of_neg (by simpa using hexpired)]
    · rename_i he
      rw [ih _ (h.pop_stale he), live_cons_stale he]

theorem count_dropExpired (hw : 1 ≤ window) (time removed : Nat)
    (h : Orderly window now seen order) :
    (dropExpired window time seen order removed).2.2 =
      removed + (live seen order).countP (fun e => decide (window ≤ time - e.2)) := by
  induction order generalizing seen removed with
  | nil => rfl
  | cons e order ih =>
    unfold dropExpired
    split
    · rename_i hrecent
      have hnone : (live seen (e :: order)).countP (fun e => decide (window ≤ time - e.2)) = 0 := by
        refine List.countP_eq_zero.mpr ?_
        intro f hf hpast
        exact Nat.not_le_of_lt (h.recent hrecent f hf) (of_decide_eq_true hpast)
      rw [hnone, Nat.add_zero]
    rename_i hexpired
    split
    · rename_i he
      have hpast : decide (window ≤ time - e.2) = true := decide_eq_true (Nat.le_of_not_lt hexpired)
      rw [ih _ (h.pop_current hw he), live_pop h.apart hw he, live_cons_current he,
        List.countP_cons_of_pos (l := live seen order) hpast]
      omega
    · rename_i he
      rw [ih _ (h.pop_stale he), live_cons_stale he]

/-- Of the message that is recorded, the new entry is the one that counts. -/
theorem live_push (h : Apart window ((key, now) :: eraseKey key seen) (order ++ [(key, now)]))
    (hw : 1 ≤ window) :
    live ((key, now) :: eraseKey key seen) (order ++ [(key, now)]) =
      (live seen order).filter (·.1 != key) ++ [(key, now)] := by
  have hlast : isCurrent ((key, now) :: eraseKey key seen) (key, now) = true :=
    isCurrent_iff.mpr List.lookup_cons_self
  rw [live, List.filter_append, List.filter_cons_of_pos hlast, List.filter_nil, live,
    List.filter_filter]
  congr 1
  refine List.filter_congr ?_
  intro f hf
  by_cases hkey : f.1 = key
  · have hearlier : f.2 + window ≤ now :=
      (List.pairwise_append.mp h.spaced).2.2 f hf (key, now) (List.mem_singleton.mpr rfl) hkey
    have hne : now ≠ f.2 := by omega
    simp [isCurrent, hkey, hne]
  · rw [isCurrent, List.lookup_cons, beq_false_of_ne hkey, bne_iff_ne.mpr hkey, Bool.true_and]
    exact isCurrent_erase hkey

/-! ## The two side by side -/

/-- A list tells what a tracker remembers. -/
structure Represents (log : Log) (t : DuplicateTracker) (now : Nat) : Prop where
  window : 1 ≤ t.window
  orderly : t.IsOrderly now
  entries : log.entries = live t.seen t.order

variable {t : DuplicateTracker} {log : Log} {later : Nat}

theorem represents_create (capacity : Nat) (hw : 1 ≤ window) :
    Represents .empty (create window capacity) now :=
  ⟨hw, isOrderly_create window capacity now, rfl⟩

theorem Represents.mono (h : Represents log t now) (hle : now ≤ later) :
    Represents log t later :=
  ⟨h.window, Orderly.mono h.orderly hle, h.entries⟩

theorem Represents.size (h : Represents log t now) : log.entries.length = t.size := by
  rw [h.entries]
  exact length_live h.orderly.apart h.window

theorem Represents.holds (h : Represents log t now) (key : MessageKey) (time : Nat) :
    log.holds t.window key time = t.contains key time := by
  rw [Bool.eq_iff_iff, Log.holds, h.entries, List.any_eq_true]
  constructor
  · rintro ⟨e, he, hholds⟩
    obtain ⟨hkey, hrecent⟩ := Bool.and_eq_true_iff.mp hholds
    have hstamp : t.seen.lookup key = some e.2 := by
      rw [← eq_of_beq hkey]
      exact isCurrent_iff.mp (List.mem_filter.mp he).2
    rw [contains, stamp?, hstamp]
    exact hrecent
  · intro hcontains
    rw [contains, stamp?] at hcontains
    cases hstamp : t.seen.lookup key with
    | none =>
      rw [hstamp] at hcontains
      cases hcontains
    | some stamp =>
      rw [hstamp] at hcontains
      refine ⟨(key, stamp), (mem_live h.orderly.toConsistent).mpr (mem_of_lookup hstamp), ?_⟩
      rw [beq_self_eq_true, Bool.true_and]
      exact hcontains

theorem Represents.record (h : Represents log t now) (hnew : t.contains key now = false) :
    Represents ((log.moveToEnd key now).cutTo t.capacity) (t.record key now) now := by
  refine ⟨h.window, h.orderly.record h.window hnew, ?_⟩
  have hpush : Apart t.window ((key, now) :: eraseKey key t.seen) (t.order ++ [(key, now)]) :=
    h.orderly.apart.push h.window fun _ hstamp => expired_of_not_contains hnew hstamp
  have hmoved : (log.moveToEnd key now).entries =
      live ((key, now) :: eraseKey key t.seen) (t.order ++ [(key, now)]) := by
    rw [live_push hpush h.window, ← h.entries]
    rfl
  change (log.moveToEnd key now).entries.drop _ = _
  rw [hmoved]
  exact (live_trim h.window t.capacity hpush).symm

theorem Represents.observe (h : Represents log t now) (key : MessageKey) :
    (log.observe t.window t.capacity key now).1 = (t.observe key now).1 ∧
      Represents (log.observe t.window t.capacity key now).2 (t.observe key now).2 now := by
  rw [Log.observe, h.holds]
  rcases observe_eq t key now with ⟨hold, heq⟩ | ⟨hnew, heq⟩
  · rw [heq, if_pos hold]
    exact ⟨rfl, h⟩
  · rw [heq, if_neg (by rw [hnew]; exact Bool.false_ne_true)]
    exact ⟨rfl, h.record hnew⟩

theorem Represents.evict (h : Represents log t now) :
    (log.evictExpired t.window now).1 = (t.evictExpired now).1 ∧
      Represents (log.evictExpired t.window now).2 (t.evictExpired now).2 now := by
  constructor
  · change log.entries.countP _ = _
    rw [h.entries]
    exact ((count_dropExpired h.window now 0 h.orderly).trans (Nat.zero_add _)).symm
  · refine ⟨h.window, orderly_dropExpired h.window now 0 h.orderly, ?_⟩
    change log.entries.filter _ = _
    rw [h.entries]
    exact (live_dropExpired h.window now 0 h.orderly).symm

theorem ask_window (t : DuplicateTracker) (q : Query) : (t.ask q).2.window = t.window := by
  cases q with
  | observe key time => exact Event.apply_window t (.observe key time)
  | contains key time => rfl
  | evict time => rfl

theorem ask_capacity (t : DuplicateTracker) (q : Query) : (t.ask q).2.capacity = t.capacity := by
  cases q with
  | observe key time => exact Event.apply_capacity t (.observe key time)
  | contains key time => rfl
  | evict time => rfl

/-- Asked the same, both answer the same and stay together. -/
theorem Represents.ask {q : Query} (h : Represents log t now) (hle : now ≤ q.time) :
    (log.ask t.window t.capacity q).1 = (t.ask q).1 ∧
      Represents (log.ask t.window t.capacity q).2 (t.ask q).2 q.time := by
  replace h : Represents log t q.time := h.mono hle
  cases q with
  | observe key time =>
    obtain ⟨hanswer, hrest⟩ := h.observe key
    exact ⟨congrArg Answer.observed hanswer, hrest⟩
  | contains key time => exact ⟨congrArg Answer.contained (h.holds key time), h⟩
  | evict time =>
    obtain ⟨hanswer, hrest⟩ := h.evict
    exact ⟨congrArg Answer.evicted hanswer, hrest⟩

theorem Represents.answers {queries : List Query} (h : Represents log t now)
    (htimes : (now :: queries.map Query.time).Pairwise (· ≤ ·)) :
    t.answers queries = log.answers t.window t.capacity queries := by
  induction queries generalizing t log now with
  | nil => rfl
  | cons q queries ih =>
    obtain ⟨hfirst, htail⟩ := List.pairwise_cons.mp htimes
    obtain ⟨hanswer, hrest⟩ := h.ask (hfirst q.time List.mem_cons_self)
    have hlater := ih hrest htail
    rw [ask_window, ask_capacity] at hlater
    rw [DuplicateTracker.answers, Log.answers, hanswer, hrest.size, hlater]

/-- Asked anything in the order of time, a tracker answers as the list would, and is
as long as the list after every answer. -/
theorem answers_eq_log (window capacity : Nat) (queries : List Query) (hw : 1 ≤ window)
    (htimes : (queries.map Query.time).Pairwise (· ≤ ·)) :
    (create window capacity).answers queries =
      Log.empty.answers window (max capacity 1) queries :=
  (represents_create capacity hw).answers
    (List.pairwise_cons.mpr ⟨fun _ _ => Nat.zero_le _, htimes⟩)

/-- Three messages for a tracker of two. The first runs out of time, is recorded again
and so outlives the second, though its old entry stands in front of the queue. -/
def crowdedQueries : List Query :=
  [.observe (⟨7⟩, 1) 0, .observe (⟨7⟩, 2) 3, .observe (⟨7⟩, 1) 4, .observe (⟨7⟩, 1) 5,
    .observe (⟨7⟩, 3) 6, .contains (⟨7⟩, 1) 6, .contains (⟨7⟩, 2) 6, .evict 10,
    .contains (⟨7⟩, 3) 10]

theorem answers_eq_log_crowded :
    (create 5 2).answers crowdedQueries = Log.empty.answers 5 2 crowdedQueries :=
  answers_eq_log 5 2 crowdedQueries (by decide) (by decide)

example : (create 5 2).answers crowdedQueries =
    [(.observed .fresh, 1), (.observed .fresh, 2), (.observed .duplicate, 2), (.observed .fresh, 2),
      (.observed .fresh, 2), (.contained true, 2), (.contained false, 2), (.evicted 1, 1),
      (.contained true, 1)] := by
  decide

end Meshwork.DuplicateTracker
