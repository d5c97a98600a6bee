import Meshwork.Proofs.Duplicates.Queue

/-!
# How long a message is remembered

A tracker forgets a message for two reasons only: its window is over, or as many
other messages as the tracker can hold were recorded since. The place of the
message in the queue is what the proof follows: whatever the memory holds besides
comes before that place and goes first, or behind it and was recorded later.
-/

namespace Meshwork.DuplicateTracker
set_option autoImplicit false
open Association

inductive Event where
  | observe (key : MessageKey) (now : Nat)
  | evict (now : Nat)

namespace Event

def time : Event → Nat
  | observe _ now => now
  | evict now => now

def apply (t : DuplicateTracker) : Event → DuplicateTracker
  | observe key now => (t.observe key now).2
  | evict now => (t.evictExpired now).2

/-- The message that is recorded as new, if one is. -/
def fresh (t : DuplicateTracker) : Event → List MessageKey
  | observe key now =>
    match t.observe key now with
    | (.fresh, _) => [key]
    | (.duplicate, _) => []
  | evict _ => []

end Event

def run (t : DuplicateTracker) (events : List Event) : DuplicateTracker :=
  events.foldl Event.apply t

/-- The messages that are recorded as new, one event after the other. -/
def recorded (t : DuplicateTracker) : List Event → List MessageKey
  | [] => []
  | e :: events => e.fresh t ++ recorded (e.apply t) events

/-- Times that do not go back, between two given ones. -/
def Between (start stop : Nat) (times : List Nat) : Prop :=
  (start :: (times ++ [stop])).Pairwise (· ≤ ·)

def IsOrderly (t : DuplicateTracker) (now : Nat) : Prop := Orderly t.window now t.seen t.order

def IsApart (t : DuplicateTracker) : Prop := Apart t.window t.seen t.order

theorem IsOrderly.apart {t : DuplicateTracker} {now : Nat} (h : t.IsOrderly now) : t.IsApart :=
  Orderly.apart h

/-- A message has its stamp, and what stands behind it in the queue was recorded since. -/
def Kept (key : MessageKey) (stamp : Nat) (since : List MessageKey)
    (seen order : List (MessageKey × Nat)) : Prop :=
  seen.lookup key = some stamp ∧
    ∃ before after, order = before ++ (key, stamp) :: after ∧
      ∀ e ∈ after, e.1 ≠ key ∧ e.1 ∈ since

/-- Among some messages there are so many others. -/
def Crowded (count : Nat) (key : MessageKey) (since : List MessageKey) : Prop :=
  ∃ others : List MessageKey, others.Nodup ∧ count ≤ others.length ∧
    ∀ k ∈ others, k ≠ key ∧ k ∈ since

variable {window now stamp : Nat} {key : MessageKey} {since : List MessageKey}
variable {seen order : List (MessageKey × Nat)} {e : MessageKey × Nat}

theorem between_cons {start stop time : Nat} {times : List Nat} :
    Between start stop (time :: times) ↔ start ≤ time ∧ Between time stop times := by
  constructor
  · intro h
    obtain ⟨hstart, htail⟩ := List.pairwise_cons.mp h
    exact ⟨hstart time List.mem_cons_self, htail⟩
  · rintro ⟨hle, h⟩
    refine List.pairwise_cons.mpr ⟨?_, h⟩
    intro later hlater
    rcases List.mem_cons.mp hlater with rfl | hlater
    · exact hle
    · exact Nat.le_trans hle ((List.pairwise_cons.mp h).1 later hlater)

theorem Between.le {start stop : Nat} {times : List Nat} (h : Between start stop times) :
    start ≤ stop :=
  (List.pairwise_cons.mp h).1 stop (List.mem_append_right _ (List.mem_singleton.mpr rfl))

/-- What happens at one time may stand before what comes later. -/
theorem Between.prepend {start stop time : Nat} {same times : List Nat} (hle : start ≤ time)
    (hsame : ∀ t ∈ same, t = time) (h : Between time stop times) :
    Between start stop (same ++ times) := by
  induction same generalizing start with
  | nil =>
    exact (between_cons.mpr ⟨hle, h⟩).sublist ((List.sublist_cons_self time _).cons_cons start)
  | cons t same ih =>
    have ht : t = time := hsame t List.mem_cons_self
    refine between_cons.mpr ⟨ht ▸ hle, ih (Nat.le_of_eq ht) ?_⟩
    intro u hu
    exact hsame u (List.mem_cons_of_mem t hu)

theorem Crowded.mono {count : Nat} {more : List MessageKey} (h : Crowded count key since)
    (hmore : since ⊆ more) : Crowded count key more := by
  obtain ⟨others, hnodup, hlen, hothers⟩ := h
  exact ⟨others, hnodup, hlen, fun k hk => ⟨(hothers k hk).1, hmore (hothers k hk).2⟩⟩

theorem Kept.mono {more : List MessageKey} (h : Kept key stamp since seen order)
    (hmore : since ⊆ more) : Kept key stamp more seen order := by
  obtain ⟨hstamp, before, after, horder, hafter⟩ := h
  exact ⟨hstamp, before, after, horder,
    fun f hf => ⟨(hafter f hf).1, hmore (hafter f hf).2⟩⟩

theorem Kept.mem (h : Kept key stamp since seen order) : (key, stamp) ∈ order := by
  obtain ⟨_, before, after, rfl, _⟩ := h
  exact List.mem_append_right before List.mem_cons_self

/-- The front of the queue is the message itself or may go. -/
theorem Kept.pop (h : Kept key stamp since seen (e :: order)) :
    (e = (key, stamp) ∧ ∀ f ∈ order, f.1 ≠ key ∧ f.1 ∈ since) ∨
      Kept key stamp since seen order := by
  obtain ⟨hstamp, before, after, horder, hafter⟩ := h
  cases before with
  | nil =>
    obtain ⟨rfl, rfl⟩ := List.cons.inj horder
    exact Or.inl ⟨rfl, hafter⟩
  | cons f before =>
    obtain ⟨rfl, rfl⟩ := List.cons.inj horder
    exact Or.inr ⟨hstamp, before, after, rfl, hafter⟩

theorem Kept.erase {other : MessageKey} (h : Kept key stamp since seen order)
    (hne : key ≠ other) : Kept key stamp since (eraseKey other seen) order := by
  refine ⟨?_, h.2⟩
  rw [eraseKey, lookup_filter_ne hne]
  exact h.1

/-- Of a consistent memory whose queue starts with the message, all the rest was
recorded since. -/
theorem crowded_of_front {capacity : Nat} (h : Consistent seen ((key, stamp) :: order))
    (hstamp : seen.lookup key = some stamp) (hafter : ∀ f ∈ order, f.1 ≠ key ∧ f.1 ∈ since)
    (hfull : capacity < seen.length) : Crowded capacity key since := by
  refine ⟨keys (eraseKey key seen), nodup_keys_filter h.nodup _, ?_, ?_⟩
  · have hlen := length_filter_of_lookup h.nodup hstamp
    rw [keys, List.length_map, eraseKey]
    omega
  · intro k hk
    obtain ⟨f, hf, rfl⟩ := List.mem_map.mp hk
    obtain ⟨hseen, hne⟩ := mem_eraseKey.mp hf
    rcases List.mem_cons.mp (h.queued f hseen) with rfl | horder
    · exact absurd rfl hne
    · exact hafter f horder

theorem kept_trim {capacity : Nat} (hw : 1 ≤ window) (ho : Apart window seen order)
    (hk : Kept key stamp since seen order) :
    Kept key stamp since (trim capacity seen order).1 (trim capacity seen order).2 ∨
      Crowded capacity key since := by
  induction order generalizing seen with
  | nil => cases hk.mem
  | cons e order ih =>
    unfold trim
    split
    · exact Or.inl hk
    rename_i hfull
    rcases hk.pop with ⟨rfl, hafter⟩ | htail
    · exact Or.inr (crowded_of_front ho.toConsistent hk.1 hafter (Nat.lt_of_not_le hfull))
    split
    · rename_i he
      exact ih (ho.pop_current hw he) (htail.erase (ho.ne_of_current hw he _ htail.mem))
    · rename_i he
      exact ih (ho.pop_stale he) htail

theorem kept_dropExpired (hw : 1 ≤ window) (time removed : Nat)
    (ho : Apart window seen order) (hk : Kept key stamp since seen order) :
    Kept key stamp since (dropExpired window time seen order removed).1
        (dropExpired window time seen order removed).2.1 ∨
      window ≤ time - stamp := by
  induction order generalizing seen removed with
  | nil => cases hk.mem
  | cons e order ih =>
    unfold dropExpired
    split
    · exact Or.inl hk
    rename_i hexpired
    rcases hk.pop with ⟨rfl, _⟩ | htail
    · exact Or.inr (Nat.le_of_not_lt hexpired)
    split
    · rename_i he
      exact ih _ (ho.pop_current hw he) (htail.erase (ho.ne_of_current hw he _ htail.mem))
    · rename_i he
      exact ih _ (ho.pop_stale he) htail

variable {t : DuplicateTracker}

theorem observe_known {t : DuplicateTracker} {key : MessageKey} {now : Nat}
    (h : t.contains key now = true) : t.observe key now = (.duplicate, t) :=
  if_pos h

theorem observe_new {t : DuplicateTracker} {key : MessageKey} {now : Nat}
    (h : t.contains key now = false) : t.observe key now = (.fresh, t.record key now) :=
  if_neg (Bool.not_eq_true _ ▸ h)

theorem observe_eq (t : DuplicateTracker) (key : MessageKey) (now : Nat) :
    (t.contains key now = true ∧ t.observe key now = (.duplicate, t)) ∨
      (t.contains key now = false ∧ t.observe key now = (.fresh, t.record key now)) := by
  cases h : t.contains key now with
  | true => exact Or.inl ⟨rfl, observe_known h⟩
  | false => exact Or.inr ⟨rfl, observe_new h⟩

/-- Observing a message records it or changes nothing. -/
theorem keep_observe {P : DuplicateTracker → Prop} (h : P t)
    (hrecord : t.contains key now = false → P (t.record key now)) : P (t.observe key now).2 := by
  rcases observe_eq t key now with ⟨_, heq⟩ | ⟨hnew, heq⟩
  · rw [heq]
    exact h
  · rw [heq]
    exact hrecord hnew

theorem expired_of_not_contains (h : t.contains key now = false)
    (hstamp : t.seen.lookup key = some stamp) : t.window ≤ now - stamp := by
  unfold contains stamp? at h
  rw [hstamp] at h
  simpa [isRecent] using h

theorem IsOrderly.record (h : t.IsOrderly now) (hw : 1 ≤ t.window)
    (hnew : t.contains key now = false) : (t.record key now).IsOrderly now :=
  orderly_trim hw t.capacity (h.push hw fun _ hstamp => expired_of_not_contains hnew hstamp)

theorem IsApart.record (h : t.IsApart) (hw : 1 ≤ t.window) (hnew : t.contains key now = false) :
    (t.record key now).IsApart :=
  apart_trim hw t.capacity (h.push hw fun _ hstamp => expired_of_not_contains hnew hstamp)

theorem IsApart.apply {e : Event} (h : t.IsApart) (hw : 1 ≤ t.window) : (e.apply t).IsApart := by
  cases e with
  | observe key time => exact keep_observe h (h.record hw)
  | evict time => exact apart_dropExpired hw time 0 h

theorem IsOrderly.apply {e : Event} (h : t.IsOrderly now) (hw : 1 ≤ t.window)
    (hle : now ≤ e.time) : (e.apply t).IsOrderly e.time := by
  replace h : t.IsOrderly e.time := h.mono hle
  cases e with
  | observe key time => exact keep_observe (P := (·.IsOrderly time)) h (h.record hw)
  | evict time => exact orderly_dropExpired hw time 0 h

theorem Event.apply_window (t : DuplicateTracker) (e : Event) :
    (e.apply t).window = t.window := by
  cases e with
  | observe key time => exact keep_observe (P := (·.window = t.window)) rfl fun _ => rfl
  | evict time => rfl

theorem Event.apply_capacity (t : DuplicateTracker) (e : Event) :
    (e.apply t).capacity = t.capacity := by
  cases e with
  | observe key time => exact keep_observe (P := (·.capacity = t.capacity)) rfl fun _ => rfl
  | evict time => rfl

theorem run_append (t : DuplicateTracker) (events more : List Event) :
    t.run (events ++ more) = (t.run events).run more :=
  List.foldl_append

theorem run_window (t : DuplicateTracker) (events : List Event) :
    (t.run events).window = t.window := by
  induction events generalizing t with
  | nil => rfl
  | cons e events ih => exact (ih (e.apply t)).trans (e.apply_window t)

theorem run_capacity (t : DuplicateTracker) (events : List Event) :
    (t.run events).capacity = t.capacity := by
  induction events generalizing t with
  | nil => rfl
  | cons e events ih => exact (ih (e.apply t)).trans (e.apply_capacity t)

theorem isApart_create (window capacity : Nat) : (create window capacity).IsApart :=
  apart_nil window

theorem IsApart.run (events : List Event) (h : t.IsApart) (hw : 1 ≤ t.window) :
    (t.run events).IsApart := by
  induction events generalizing t with
  | nil => exact h
  | cons e events ih => exact ih (h.apply hw) (by rw [Event.apply_window]; exact hw)

theorem isOrderly_create (window capacity now : Nat) :
    (create window capacity).IsOrderly now :=
  orderly_nil window now

theorem IsOrderly.run {stop : Nat} (events : List Event) (h : t.IsOrderly now)
    (hw : 1 ≤ t.window) (htimes : Between now stop (events.map Event.time)) :
    (t.run events).IsOrderly stop := by
  induction events generalizing t now with
  | nil => exact h.mono htimes.le
  | cons e events ih =>
    obtain ⟨hle, htail⟩ := between_cons.mp htimes
    exact ih (h.apply hw hle) (by rw [Event.apply_window]; exact hw) htail

/-- A message just recorded is at the end of the queue. -/
theorem kept_record (h : t.IsApart) (hw : 1 ≤ t.window) (hc : 1 ≤ t.capacity)
    (hnew : t.contains key now = false) :
    Kept key now [] (t.record key now).seen (t.record key now).order := by
  have hpush := h.push hw fun _ hstamp => expired_of_not_contains hnew hstamp
  have hkept : Kept key now [] ((key, now) :: eraseKey key t.seen) (t.order ++ [(key, now)]) :=
    ⟨List.lookup_cons_self, t.order, [], rfl, by simp⟩
  rcases kept_trim hw hpush hkept with hkept | ⟨others, _, hlen, hothers⟩
  · exact hkept
  · have hpos : 0 < others.length := Nat.lt_of_lt_of_le hc hlen
    cases (hothers _ (List.getElem_mem hpos)).2

theorem kept_record_other {other : MessageKey} (h : t.IsApart) (hw : 1 ≤ t.window)
    (hnew : t.contains other now = false) (hne : key ≠ other)
    (hk : Kept key stamp since t.seen t.order) :
    Kept key stamp (since ++ [other]) (t.record other now).seen (t.record other now).order ∨
      Crowded t.capacity key (since ++ [other]) := by
  have hpush := h.push hw fun _ hstamp => expired_of_not_contains hnew hstamp
  obtain ⟨hstamp, before, after, horder, hafter⟩ := hk
  refine kept_trim hw hpush ⟨?_, before, after ++ [(other, now)], ?_, ?_⟩
  · rw [List.lookup_cons, beq_false_of_ne hne, eraseKey, lookup_filter_ne hne]
    exact hstamp
  · rw [horder, List.append_assoc, List.cons_append]
  · intro f hf
    rcases List.mem_append.mp hf with hf | hf
    · exact ⟨(hafter f hf).1, List.mem_append_left _ (hafter f hf).2⟩
    · rw [List.mem_singleton.mp hf]
      exact ⟨hne.symm, List.mem_append_right _ (List.mem_singleton.mpr rfl)⟩

theorem kept_apply {e : Event} (h : t.IsApart) (hw : 1 ≤ t.window)
    (hk : Kept key stamp since t.seen t.order) :
    Kept key stamp (since ++ e.fresh t) (e.apply t).seen (e.apply t).order ∨
      Crowded t.capacity key (since ++ e.fresh t) ∨ t.window ≤ e.time - stamp := by
  cases e with
  | observe other time =>
    rcases observe_eq t other time with ⟨_, heq⟩ | ⟨hnew, heq⟩
    · left
      simpa only [Event.apply, Event.fresh, heq, List.append_nil] using hk
    · by_cases hne : key = other
      · right; right
        exact expired_of_not_contains hnew (hne ▸ hk.1)
      · rcases kept_record_other h hw hnew hne hk with hkept | hcrowded
        · left
          simpa only [Event.apply, Event.fresh, heq] using hkept
        · right; left
          simpa only [Event.fresh, heq] using hcrowded
  | evict time =>
    rcases kept_dropExpired hw time 0 h hk with hkept | hexpired
    · exact Or.inl (hkept.mono (List.subset_append_left _ _))
    · exact Or.inr (Or.inr hexpired)

/-- The three things that can have become of a message after any events. -/
theorem kept_run {stop : Nat} (events : List Event) (h : t.IsApart) (hw : 1 ≤ t.window)
    (htimes : Between now stop (events.map Event.time))
    (hk : Kept key stamp since t.seen t.order) :
    Kept key stamp (since ++ t.recorded events) (t.run events).seen (t.run events).order ∨
      Crowded t.capacity key (since ++ t.recorded events) ∨ t.window ≤ stop - stamp := by
  induction events generalizing t now since with
  | nil => exact Or.inl (hk.mono (List.subset_append_left _ _))
  | cons e events ih =>
    obtain ⟨hle, htail⟩ := between_cons.mp htimes
    have hstop : e.time ≤ stop := htail.le
    have hsince : since ++ e.fresh t ⊆ since ++ t.recorded (e :: events) := by
      rw [recorded, ← List.append_assoc]
      exact List.subset_append_left _ _
    rcases kept_apply (e := e) h hw hk with hkept | hcrowded | hexpired
    · have hrest := ih (h.apply hw) (by rw [Event.apply_window]; exact hw) htail hkept
      rw [Event.apply_window, Event.apply_capacity, List.append_assoc] at hrest
      exact hrest
    · exact Or.inr (Or.inl (hcrowded.mono hsince))
    · exact Or.inr (Or.inr (Nat.le_trans hexpired (Nat.sub_le_sub_right hstop stamp)))

/-- A message recorded once counts as new again only when its window is over or
as many other messages as the tracker holds were recorded in between. -/
theorem crowded_of_forgotten {stop : Nat} (events : List Event) (h : t.IsOrderly now)
    (hw : 1 ≤ t.window) (hc : 1 ≤ t.capacity) (hnew : t.contains key now = false)
    (htimes : Between now stop (events.map Event.time))
    (hagain : ((t.record key now).run events).contains key stop = false) :
    t.window ≤ stop - now ∨ Crowded t.capacity key ((t.record key now).recorded events) := by
  rcases kept_run events (h.apart.record hw hnew) hw htimes (kept_record h.apart hw hc hnew) with
    hkept | hcrowded | hexpired
  · left
    have hexpired := expired_of_not_contains hagain hkept.1
    rwa [run_window] at hexpired
  · exact Or.inr hcrowded
  · exact Or.inl hexpired

/-! ## A message that is remembered -/

/-- The tracker has recorded a message at this time, and only some others since. -/
structure Remembers (t : DuplicateTracker) (key : MessageKey) (stamp : Nat)
    (since : List MessageKey) : Prop where
  window : 1 ≤ t.window
  apart : t.IsApart
  kept : Kept key stamp since t.seen t.order

theorem Remembers.contains (h : t.Remembers key stamp since) (hrecent : now - stamp < t.window) :
    t.contains key now = true := by
  cases hnew : t.contains key now with
  | true => rfl
  | false =>
    have hexpired := expired_of_not_contains hnew h.kept.1
    omega

theorem Remembers.evict (h : t.Remembers key stamp since) (hrecent : now - stamp < t.window) :
    (t.evictExpired now).2.Remembers key stamp since := by
  refine ⟨h.window, h.apart.apply (e := .evict now) h.window, ?_⟩
  rcases kept_dropExpired h.window now 0 h.apart h.kept with hkept | hexpired
  · exact hkept
  · omega

theorem remembers_record (hw : 1 ≤ t.window) (hc : 1 ≤ t.capacity) (h : t.IsApart)
    (hnew : t.contains key now = false) : (t.record key now).Remembers key now [] :=
  ⟨hw, h.record hw hnew, kept_record h hw hc hnew⟩

/-- A message is in memory right after it was observed, known before or not. -/
theorem contains_observe (hw : 1 ≤ t.window) (hc : 1 ≤ t.capacity) (h : t.IsApart)
    (key : MessageKey) (now : Nat) : (t.observe key now).2.contains key now = true := by
  rcases t.observe_eq key now with ⟨hknown, heq⟩ | ⟨hnew, heq⟩
  · rw [heq]
    exact hknown
  · rw [heq]
    refine (remembers_record hw hc h hnew).contains ?_
    rw [Nat.sub_self]
    exact hw

/-- A tracker that holds two messages keeps one while another is recorded. -/
theorem Remembers.record_other {other : MessageKey} (h : t.Remembers key stamp since)
    (hc : 2 ≤ t.capacity) (hne : key ≠ other) (hsince : since ⊆ [other])
    (hnew : t.contains other now = false) :
    (t.record other now).Remembers key stamp [other] := by
  refine ⟨h.window, h.apart.record h.window hnew, ?_⟩
  have honly : since ++ [other] ⊆ [other] :=
    List.append_subset.mpr ⟨hsince, List.Subset.refl _⟩
  rcases kept_record_other h.apart h.window hnew hne h.kept with hkept | hcrowded
  · exact hkept.mono honly
  · obtain ⟨others, hnodup, hlength, hothers⟩ := hcrowded
    have hsame : ∀ k ∈ others, k = other :=
      fun k hk => List.mem_singleton.mp (honly (hothers k hk).2)
    have htwo : 2 ≤ others.length := Nat.le_trans hc hlength
    cases others with
    | nil => cases htwo
    | cons first rest =>
      cases rest with
      | nil => exact absurd htwo (Nat.not_succ_le_self 1)
      | cons second rest =>
        have hfirst := hsame first List.mem_cons_self
        have hsecond := hsame second (List.mem_cons_of_mem first List.mem_cons_self)
        have hdistinct := (List.nodup_cons.mp hnodup).1
        rw [hfirst, hsecond] at hdistinct
        exact absurd List.mem_cons_self hdistinct

/-! ## A message that is new -/

theorem lookup_of_lookup_eraseKey {other : MessageKey}
    (h : (eraseKey other seen).lookup key = some stamp) : seen.lookup key = some stamp := by
  by_cases hkey : key = other
  · rw [hkey, eraseKey, lookup_filter_self] at h
    cases h
  · rw [eraseKey, lookup_filter_ne hkey] at h
    exact h

/-- What is in the memory still has been there all the time. -/
theorem lookup_of_lookup_pops {m m' : Memory} (hpops : Relation.ReflTransGen Pop m m')
    (h : m'.1.lookup key = some stamp) : m.1.lookup key = some stamp := by
  induction hpops with
  | refl => exact h
  | tail _ hlast ih =>
    cases hlast with
    | current _ => exact ih (lookup_of_lookup_eraseKey h)
    | stale _ => exact ih h

theorem not_contains_of_lookup {t' : DuplicateTracker} (hwindow : t'.window = t.window)
    (hlookup : ∀ stamp, t'.seen.lookup key = some stamp → t.seen.lookup key = some stamp)
    (h : t.contains key now = false) : t'.contains key now = false := by
  unfold contains stamp?
  cases hstamp : t'.seen.lookup key with
  | none => rfl
  | some stamp =>
    have hexpired := expired_of_not_contains h (hlookup stamp hstamp)
    simp only [isRecent, decide_eq_false_iff_not]
    omega

/-- A message that is new stays new as time goes on. -/
theorem not_contains_of_le {later : Nat} (h : t.contains key now = false) (hle : now ≤ later) :
    t.contains key later = false := by
  unfold contains at h ⊢
  cases hstamp : t.stamp? key with
  | none => rfl
  | some stamp =>
    rw [hstamp] at h
    simp only [isRecent, decide_eq_false_iff_not] at h ⊢
    omega

/-- A message that is new stays new while the tracker forgets, whatever the time is. -/
theorem not_contains_evict {time : Nat} (h : t.contains key now = false) :
    (t.evictExpired time).2.contains key now = false :=
  not_contains_of_lookup (t := t) rfl
    (fun _ hstamp => lookup_of_lookup_pops (pops_dropExpired _ _ _ _ t.order) hstamp) h

theorem not_contains_record {other : MessageKey} {time : Nat} (h : t.contains key now = false)
    (hne : key ≠ other) : (t.record other time).contains key now = false := by
  refine not_contains_of_lookup (t := t) rfl ?_ h
  intro stamp hstamp
  have hbefore := lookup_of_lookup_pops (pops_trim _ _ (t.order ++ [(other, time)])) hstamp
  rw [List.lookup_cons, beq_false_of_ne hne] at hbefore
  exact lookup_of_lookup_eraseKey hbefore

end Meshwork.DuplicateTracker
