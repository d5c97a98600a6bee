import Meshwork.Simulation

/-!
# What a log says of messages

A log begins with the latest event. By the log a message is awaited if it was sent and was
not delivered since. If every delivery was of a message that was awaited, then between two
times that a message is sent it is delivered once at most.
-/

namespace Meshwork
set_option autoImplicit false

namespace SimEvent

def isDelivery : SimEvent → Bool
  | messageDelivered _ _ _ _ => true
  | _ => false

/-- The message with this key is delivered. -/
def delivers (key : MessageKey) : SimEvent → Bool
  | messageDelivered _ source id _ => decide ((source, id) = key)
  | _ => false

/-- The message with this key is sent by a node, the nodes being called as told. -/
def sends (names : Nat → Option NodeId) (key : MessageKey) : SimEvent → Bool
  | messageSent sender id _ => decide (names sender = some key.1 ∧ id = key.2)
  | _ => false

/-- What is delivered at this node: the message and its hops. -/
def reportAt (index : Nat) : SimEvent → Option (MessageKey × UInt8)
  | messageDelivered i source id hops => if i = index then some ((source, id), hops) else none
  | _ => none

/-- No message is sent and none is delivered. -/
def isAside : SimEvent → Bool
  | messageSent _ _ _ => false
  | messageDelivered _ _ _ _ => false
  | _ => true

end SimEvent

namespace Simulation

/-- Whom a message is for that was sent and was not delivered since. -/
def awaited (names : Nat → Option NodeId) (key : MessageKey) : List SimEvent → Option NodeId
  | [] => none
  | .messageSent sender id destination :: log =>
    if names sender = some key.1 ∧ id = key.2 then some destination else awaited names key log
  | .messageDelivered _ source id _ :: log =>
    if (source, id) = key then none else awaited names key log
  | _ :: log => awaited names key log

/-- Every message that was delivered was awaited, by everybody or at the node where it was
delivered. -/
def Answered (names : Nat → Option NodeId) : List SimEvent → Prop
  | [] => True
  | .messageDelivered index source id _ :: log =>
    (∃ destination, awaited names (source, id) log = some destination ∧
      (destination = .broadcast ∨ names index = some destination)) ∧ Answered names log
  | _ :: log => Answered names log

/-- Whoever has sent something is there. -/
def Known (names : Nat → Option NodeId) (log : List SimEvent) : Prop :=
  ∀ sender id destination, SimEvent.messageSent sender id destination ∈ log →
    ∃ name, names sender = some name

variable {names names' : Nat → Option NodeId} {key : MessageKey} {log older : List SimEvent}

theorem answered_append (newer : List SimEvent) (h : Answered names (newer ++ older)) :
    Answered names older := by
  induction newer with
  | nil => exact h
  | cons e newer ih =>
    cases e with
    | messageDelivered index source id hops => exact ih h.2
    | _ => exact ih h

/-! ## Deliveries of one message -/

/-- A message that is awaited and was not sent in this stretch was not delivered in it. -/
theorem not_delivers_of_awaited {stretch : List SimEvent} {destination : NodeId}
    (hquiet : ∀ e ∈ stretch, e.sends names key = false)
    (h : awaited names key (stretch ++ older) = some destination) :
    ∀ e ∈ stretch, e.delivers key = false := by
  induction stretch with
  | nil => nofun
  | cons e stretch ih =>
    obtain ⟨hfirst, hothers⟩ := List.forall_mem_cons.mp hquiet
    refine List.forall_mem_cons.mpr ?_
    cases e with
    | messageSent sender id receiver =>
      have hnot := of_decide_eq_false hfirst
      rw [List.cons_append, awaited, if_neg hnot] at h
      exact ⟨rfl, ih hothers h⟩
    | messageDelivered index source id hops =>
      rw [List.cons_append, awaited] at h
      split at h
      · cases h
      · rename_i hother
        exact ⟨decide_eq_false hother, ih hothers h⟩
    | _ => exact ⟨rfl, ih hothers h⟩

theorem countP_delivers_le_one {stretch : List SimEvent}
    (hanswered : Answered names (stretch ++ older))
    (hquiet : ∀ e ∈ stretch, e.sends names key = false) :
    stretch.countP (SimEvent.delivers key) ≤ 1 := by
  induction stretch with
  | nil => exact Nat.zero_le 1
  | cons e stretch ih =>
    obtain ⟨_, hothers⟩ := List.forall_mem_cons.mp hquiet
    have hrest := ih (answered_append [e] hanswered) hothers
    rw [List.countP_cons]
    split
    · -- the latest delivery: none was before it
      rename_i hdelivers
      cases e with
      | messageDelivered index source id hops =>
        obtain ⟨⟨destination, hawaited, _⟩, _⟩ := hanswered
        rw [of_decide_eq_true hdelivers] at hawaited
        have hnone : stretch.countP (SimEvent.delivers key) = 0 := by
          rw [List.countP_eq_zero]
          intro e he hdelivered
          rw [not_delivers_of_awaited hothers hawaited e he] at hdelivered
          cases hdelivered
        exact Nat.le_of_eq (congrArg (· + 1) hnone)
      | _ => cases hdelivers
    · exact hrest

/-! ## Events that do not matter -/

section Aside

variable {noise : List SimEvent}

theorem awaited_aside (h : ∀ e ∈ noise, e.isAside = true) :
    awaited names key (noise ++ log) = awaited names key log := by
  induction noise with
  | nil => rfl
  | cons e noise ih =>
    obtain ⟨hfirst, hothers⟩ := List.forall_mem_cons.mp h
    cases e with
    | messageSent sender id destination => cases hfirst
    | messageDelivered index source id hops => cases hfirst
    | _ => exact ih hothers

theorem answered_aside (h : ∀ e ∈ noise, e.isAside = true) :
    Answered names (noise ++ log) ↔ Answered names log := by
  induction noise with
  | nil => rfl
  | cons e noise ih =>
    obtain ⟨hfirst, hothers⟩ := List.forall_mem_cons.mp h
    cases e with
    | messageSent sender id destination => cases hfirst
    | messageDelivered index source id hops => cases hfirst
    | _ => exact ih hothers

theorem known_aside (h : ∀ e ∈ noise, e.isAside = true) :
    Known names (noise ++ log) ↔ Known names log := by
  refine ⟨fun hknown sender id destination hmem =>
    hknown sender id destination (List.mem_append_right noise hmem),
    fun hknown sender id destination hmem => ?_⟩
  rcases List.mem_append.mp hmem with hmem | hmem
  · cases h _ hmem
  · exact hknown sender id destination hmem

theorem reportAt_aside (h : ∀ e ∈ noise, e.isAside = true) (index : Nat) :
    (noise ++ log).filterMap (SimEvent.reportAt index) =
      log.filterMap (SimEvent.reportAt index) := by
  have hnone : noise.filterMap (SimEvent.reportAt index) = [] := by
    rw [List.filterMap_eq_nil_iff]
    intro e he
    have haside := h e he
    cases e with
    | messageDelivered index source id hops => cases haside
    | _ => rfl
  rw [List.filterMap_append, hnone, List.nil_append]

theorem countP_aside (h : ∀ e ∈ noise, e.isAside = true) :
    (noise ++ log).countP SimEvent.isDelivery = log.countP SimEvent.isDelivery := by
  have hnone : noise.countP SimEvent.isDelivery = 0 := by
    rw [List.countP_eq_zero]
    intro e he hdelivery
    have haside := h e he
    cases e with
    | messageDelivered index source id hops => cases haside
    | _ => cases hdelivery
  rw [List.countP_append, hnone, Nat.zero_add]

end Aside

/-! ## More nodes -/

theorem awaited_names (hknown : Known names log)
    (hmore : ∀ i name, names i = some name → names' i = some name) :
    awaited names' key log = awaited names key log := by
  induction log with
  | nil => rfl
  | cons e log ih =>
    have hrest := ih fun sender id destination hmem =>
      hknown sender id destination (List.mem_cons_of_mem e hmem)
    cases e with
    | messageSent sender id destination =>
      obtain ⟨name, hname⟩ := hknown sender id destination List.mem_cons_self
      rw [awaited, awaited, hrest, hmore sender name hname, hname]
    | messageDelivered index source id hops => rw [awaited, awaited, hrest]
    | _ => exact hrest

theorem Answered.more_names (h : Answered names log) (hknown : Known names log)
    (hmore : ∀ i name, names i = some name → names' i = some name) : Answered names' log := by
  induction log with
  | nil => trivial
  | cons e log ih =>
    have hrest : Known names log := fun sender id destination hmem =>
      hknown sender id destination (List.mem_cons_of_mem e hmem)
    cases e with
    | messageDelivered index source id hops =>
      obtain ⟨⟨destination, hawaited, hplace⟩, hbefore⟩ := h
      refine ⟨⟨destination, ?_, hplace.imp_right (hmore index destination)⟩, ih hbefore hrest⟩
      rw [awaited_names hrest hmore, hawaited]
    | _ => exact ih h hrest

end Simulation
end Meshwork
