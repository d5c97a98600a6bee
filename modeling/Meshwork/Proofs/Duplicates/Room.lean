import Meshwork.Proofs.Duplicates.Retention

/-!
# Room in a tracker

A tracker that has too many messages forgets the oldest, again and again until the
rest fits. The loop asks only how long the memory is, and it would turn on the spot if
the memory had a message that the queue has lost. The queue loses none, whatever the
window is and however the clock jumps, so every loop of a tracker comes to an end.
-/

namespace Meshwork.DuplicateTracker
set_option autoImplicit false
open Association Relation

/-- A loop that begins here comes to its end there: its turns do not go on for ever, and
from the end no turn leads on. -/
structure Ends {α : Type} (Turn : α → α → Prop) (start stop : α) : Prop where
  finite : Acc (fun next m => Turn m next) start
  leads : ReflTransGen Turn start stop
  last : ∀ next, ¬Turn stop next

/-- One turn of the search for the oldest message: the front of the queue does not count
any more, and goes. -/
inductive SkipTurn : Memory → Memory → Prop
  | skip {seen order : List (MessageKey × Nat)} {e : MessageKey × Nat}
      (he : ¬isCurrent seen e = true) : SkipTurn (seen, e :: order) (seen, order)

/-- The queue from the first entry that counts. -/
def skipStale (m : Memory) : Memory := (m.1, m.2.dropWhile fun e => !isCurrent m.1 e)

/-- The oldest message goes, if the queue has an entry that counts. -/
def forgetOldest (m : Memory) : Memory :=
  match skipStale m with
  | (seen, []) => (seen, [])
  | (seen, e :: order) => (eraseKey e.1 seen, order)

/-- One turn of the loop that makes room. -/
inductive RoomTurn (capacity : Nat) (m : Memory) : Memory → Prop
  | forget (hfull : capacity < m.1.length) : RoomTurn capacity m (forgetOldest m)

/-- One turn of the loop that forgets what is past the window. -/
inductive ExpiryTurn (window now : Nat) : Memory → Memory → Prop
  | expire {seen order : List (MessageKey × Nat)} {e : MessageKey × Nat} {m : Memory}
      (hpast : window ≤ now - e.2) (hpop : Pop (seen, e :: order) m) :
      ExpiryTurn window now (seen, e :: order) m

/-- What a tracker remembers, and in which order. -/
def memory (t : DuplicateTracker) : Memory := (t.seen, t.order)

/-- What is in the memory when a message has just been put there. -/
def pushed (t : DuplicateTracker) (key : MessageKey) (now : Nat) : Memory :=
  ((key, now) :: eraseKey key t.seen, t.order ++ [(key, now)])

variable {α : Type} {Turn : α → α → Prop} {start next stop : α}
variable {window now capacity : Nat} {m m' : Memory} {key : MessageKey}
variable {seen order : List (MessageKey × Nat)} {e : MessageKey × Nat} {t : DuplicateTracker}

/-! ## Loops that end -/

theorem Ends.here (h : ∀ next, ¬Turn stop next) : Ends Turn stop stop :=
  ⟨⟨_, fun next hturn => absurd hturn (h next)⟩, .refl, h⟩

/-- A loop that can take one turn only ends where it ends after that. -/
theorem Ends.after (hturn : Turn start next) (honly : ∀ other, Turn start other → other = next)
    (h : Ends Turn next stop) : Ends Turn start stop := by
  refine ⟨⟨_, fun other hother => ?_⟩, .head hturn h.leads, h.last⟩
  rw [honly other hother]
  exact h.finite

theorem ends_skipStale (seen order : List (MessageKey × Nat)) :
    Ends SkipTurn (seen, order) (skipStale (seen, order)) := by
  induction order with
  | nil => exact Ends.here nofun
  | cons e order ih =>
    unfold skipStale
    by_cases he : isCurrent seen e = true
    · rw [List.dropWhile_cons_of_neg (by simpa using he)]
      refine Ends.here fun next hturn => ?_
      cases hturn with
      | skip hstale => exact hstale he
    · rw [List.dropWhile_cons_of_pos (by simpa using he)]
      refine Ends.after (.skip he) (fun other hturn => ?_) ih
      cases hturn with
      | skip _ => rfl

theorem ends_dropExpired (window now removed : Nat) (seen order : List (MessageKey × Nat)) :
    Ends (ExpiryTurn window now) (seen, order)
      ((dropExpired window now seen order removed).1,
        (dropExpired window now seen order removed).2.1) := by
  induction order generalizing seen removed with
  | nil => exact Ends.here nofun
  | cons e order ih =>
    unfold dropExpired
    split
    · rename_i hrecent
      refine Ends.here fun next hturn => ?_
      cases hturn with
      | expire hpast _ => exact Nat.not_lt_of_le hpast hrecent
    rename_i hold
    have hpast : window ≤ now - e.2 := Nat.le_of_not_lt hold
    split
    · rename_i he
      refine Ends.after (.expire hpast (.current he)) (fun other hturn => ?_) (ih _ _)
      cases hturn with
      | expire _ hpop =>
        cases hpop with
        | current _ => rfl
        | stale hstale => exact absurd he hstale
    · rename_i hstale
      refine Ends.after (.expire hpast (.stale hstale)) (fun other hturn => ?_) (ih _ _)
      cases hturn with
      | expire _ hpop =>
        cases hpop with
        | current he => exact absurd he hstale
        | stale _ => rfl

/-! ## The oldest message -/

theorem forgetOldest_current (he : isCurrent seen e = true) :
    forgetOldest (seen, e :: order) = (eraseKey e.1 seen, order) := by
  unfold forgetOldest skipStale
  rw [List.dropWhile_cons_of_neg (by simpa using he)]

theorem forgetOldest_stale (he : ¬isCurrent seen e = true) :
    forgetOldest (seen, e :: order) = forgetOldest (seen, order) := by
  unfold forgetOldest skipStale
  rw [List.dropWhile_cons_of_pos (by simpa using he)]

theorem pops_forgetOldest (seen order : List (MessageKey × Nat)) :
    ReflTransGen Pop (seen, order) (forgetOldest (seen, order)) := by
  induction order with
  | nil => exact .refl
  | cons e order ih =>
    by_cases he : isCurrent seen e = true
    · rw [forgetOldest_current he]
      exact .single (.current he)
    · rw [forgetOldest_stale he]
      exact .head (.stale he) ih

/-- Where the queue has lost no message, one of those in the memory goes. -/
theorem length_forgetOldest (h : Consistent seen order) (hne : seen ≠ []) :
    (forgetOldest (seen, order)).1.length + 1 = seen.length := by
  induction order with
  | nil =>
    obtain ⟨e, he⟩ := List.exists_mem_of_ne_nil seen hne
    cases h.queued e he
  | cons e order ih =>
    by_cases he : isCurrent seen e = true
    · rw [forgetOldest_current he]
      exact length_filter_of_lookup h.nodup (isCurrent_iff.mp he)
    · rw [forgetOldest_stale he]
      exact ih (h.pop_stale he)

/-! ## Making room -/

theorem trim_of_le (h : seen.length ≤ capacity) : trim capacity seen order = (seen, order) := by
  cases order with
  | nil => rfl
  | cons e order =>
    unfold trim
    rw [if_pos h]

/-- To forget the oldest message first makes no difference if one has to go. -/
theorem trim_forgetOldest (hfull : capacity < seen.length) :
    trim capacity (forgetOldest (seen, order)).1 (forgetOldest (seen, order)).2 =
      trim capacity seen order := by
  induction order with
  | nil => rfl
  | cons e order ih =>
    rw [trim, if_neg (Nat.not_le_of_lt hfull)]
    by_cases he : isCurrent seen e = true
    · rw [forgetOldest_current he, if_pos he]
    · rw [forgetOldest_stale he, if_neg he]
      exact ih

/-- What is computed is where the loop ends. Every turn takes a message out of the memory,
and there is no other way the loop could go. -/
theorem ends_trim (capacity : Nat) (h : Consistent seen order) :
    Ends (RoomTurn capacity) (seen, order) (trim capacity seen order) := by
  generalize hlength : seen.length = count
  induction count using Nat.strongRecOn generalizing seen order with
  | ind count ih =>
    by_cases hfull : capacity < seen.length
    · have hne : seen ≠ [] := List.ne_nil_of_length_pos (Nat.lt_of_le_of_lt (Nat.zero_le _) hfull)
      have hless : (forgetOldest (seen, order)).1.length < count := by
        rw [← hlength]
        exact Nat.lt_of_succ_le (Nat.le_of_eq (length_forgetOldest h hne))
      have hrest : Consistent (forgetOldest (seen, order)).1 (forgetOldest (seen, order)).2 :=
        keep_of_pops Consistent.pop (pops_forgetOldest seen order) h
      rw [← trim_forgetOldest hfull]
      refine Ends.after (.forget hfull) (fun other hturn => ?_) (ih _ hless hrest rfl)
      cases hturn with
      | forget _ => rfl
    · rw [trim_of_le (Nat.le_of_not_lt hfull)]
      refine Ends.here fun next hturn => ?_
      cases hturn with
      | forget hmore => exact hfull hmore

theorem length_trim_le (capacity : Nat) (h : Consistent seen order) :
    (trim capacity seen order).1.length ≤ capacity :=
  Nat.le_of_not_lt fun hfull => (ends_trim capacity h).last _ (.forget hfull)

/-! ## All that a tracker goes through -/

/-- The queue has all messages of the memory, which are no more than may be. -/
structure IsBounded (t : DuplicateTracker) : Prop where
  consistent : Consistent t.seen t.order
  size : t.size ≤ t.capacity

theorem length_le_of_pops (hpops : ReflTransGen Pop m m') : m'.1.length ≤ m.1.length := by
  induction hpops with
  | refl => exact Nat.le_refl _
  | tail _ hlast ih =>
    cases hlast with
    | current _ => exact Nat.le_trans (List.length_filter_le _ _) ih
    | stale _ => exact ih

theorem isBounded_create (window capacity : Nat) : (create window capacity).IsBounded :=
  ⟨consistent_nil, Nat.zero_le _⟩

theorem IsBounded.record (h : t.IsBounded) (key : MessageKey) (now : Nat) :
    (t.record key now).IsBounded :=
  ⟨keep_of_pops Consistent.pop (pops_trim t.capacity _ _) h.consistent.push,
    length_trim_le t.capacity h.consistent.push⟩

theorem IsBounded.apply (h : t.IsBounded) (e : Event) : (e.apply t).IsBounded := by
  cases e with
  | observe key now => exact keep_observe h fun _ => h.record key now
  | evict now =>
    have hpops := pops_dropExpired t.window now 0 t.seen t.order
    exact ⟨keep_of_pops Consistent.pop hpops h.consistent,
      Nat.le_trans (length_le_of_pops hpops) h.size⟩

theorem IsBounded.run (h : t.IsBounded) (events : List Event) : (t.run events).IsBounded := by
  induction events generalizing t with
  | nil => exact h
  | cons e events ih => exact ih (h.apply e)

/-- Whatever a tracker has seen and swept, at whatever times, with any window and any
capacity: its memory has every message once and no more of them than it may, and all of
them stand in its queue with their stamps. The search for the oldest message ends in any
state; the loop that makes room after a message has been put in, and the loop that drops
what has expired, end in this one, and they end where the tracker goes on. If there is a
window at all, the message that has just been seen is not the one that is forgotten. -/
theorem queued_and_loops_end (window capacity : Nat) (events : List Event) :
    let t := (create window capacity).run events
    (keys t.seen).Nodup ∧ (∀ e ∈ t.seen, e ∈ t.order) ∧ t.size ≤ max capacity 1 ∧
    (∀ m, Ends SkipTurn m (skipStale m)) ∧
    (∀ key now, Ends (RoomTurn (max capacity 1)) (t.pushed key now) (t.record key now).memory) ∧
    (∀ now, Ends (ExpiryTurn window now) t.memory (t.evictExpired now).2.memory) ∧
    (1 ≤ window → ∀ key now, (t.observe key now).2.contains key now = true) := by
  intro t
  have hwindow : t.window = window := run_window _ events
  have hcapacity : t.capacity = max capacity 1 := run_capacity _ events
  have hbounded : t.IsBounded := (isBounded_create window capacity).run events
  refine ⟨hbounded.consistent.nodup, hbounded.consistent.queued, hcapacity ▸ hbounded.size,
    fun m => ends_skipStale m.1 m.2, fun key now => ?_, fun now => ?_, fun hw key now => ?_⟩
  · rw [← hcapacity]
    exact ends_trim t.capacity hbounded.consistent.push
  · rw [← hwindow]
    exact ends_dropExpired t.window now 0 t.seen t.order
  · have hapart : t.IsApart := (isApart_create window capacity).run events hw
    have hroom : 1 ≤ t.capacity := hcapacity ▸ Nat.le_max_right capacity 1
    exact contains_observe (hwindow.symm ▸ hw) hroom hapart key now

/-- One message is recorded twice, its second stamp being the later, and then the clock is
set back. -/
def backwardsEvents : List Event :=
  [.observe (⟨7⟩, 1) 0, .observe (⟨7⟩, 1) 9, .evict 4, .observe (⟨7⟩, 2) 3]

/-- In a tracker for no message at all there is room for the one that was just seen. -/
theorem queued_and_loops_end_backwards :
    1 ≤ 5 ∧ (((create 5 0).run backwardsEvents).observe (⟨7⟩, 1) 2).2.contains (⟨7⟩, 1) 2 =
      true :=
  ⟨by decide, (queued_and_loops_end 5 0 backwardsEvents).2.2.2.2.2.2 (by decide) (⟨7⟩, 1) 2⟩

end Meshwork.DuplicateTracker
