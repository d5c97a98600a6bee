import Mathlib.Algebra.BigOperators.Group.Finset.Basic
import Meshwork.Proofs.Simulation.Draining

/-!
# What a step moves

In a step all that waits in the outboxes is taken off, and every device finds in its
inbox what it can hear, in the order of the senders. Then one device after the other
empties its inbox. The accounts touch no device.
-/

namespace Meshwork
set_option autoImplicit false

namespace SimNode

/-- The node with more in its inbox. -/
def take (n : SimNode) (entries : List (Bytes × Int16)) : SimNode :=
  { n with device.radio.inbox := n.device.radio.inbox ++ entries }

/-- The node with nothing left to send. -/
def emptied (n : SimNode) : SimNode := { n with device.radio.outbox := [] }

/-- Frames from a place as this node hears them, if it does. -/
def catches (n : SimNode) (medium : Medium) (place : Position) (frames : List Bytes) :
    List (Bytes × Int16) :=
  if Simulation.isHeard medium (medium.rssi place n.position) then
    frames.map fun frame => (frame, Medium.reported (medium.rssi place n.position))
  else []

theorem take_nil (n : SimNode) : n.take [] = n := by
  unfold take
  rw [List.append_nil]

theorem take_take (n : SimNode) (entries more : List (Bytes × Int16)) :
    (n.take entries).take more = n.take (entries ++ more) := by
  unfold take
  rw [List.append_assoc]

theorem catches_append (n : SimNode) (medium : Medium) (place : Position)
    (frames more : List Bytes) :
    n.catches medium place (frames ++ more) =
      n.catches medium place frames ++ n.catches medium place more := by
  unfold catches
  split
  · exact List.map_append
  · rfl

theorem catches_nil (n : SimNode) (medium : Medium) (place : Position) :
    n.catches medium place [] = [] := by
  unfold catches
  split <;> rfl

end SimNode

namespace Simulation

/-- What becomes of the nodes while nothing else that matters to them changes, and
how many frames go on the air. -/
structure Turns (f : Nat → SimNode → SimNode) (frames : Nat) (s s' : Simulation) : Prop where
  nodes : ∀ j, s'.nodes[j]? = (s.nodes[j]?).map (f j)
  setup : s'.setup = s.setup
  draws : s'.draws = s.draws
  now : s'.now = s.now
  transmitted : s'.stats.framesTransmitted = s.stats.framesTransmitted + frames

variable {s s' s'' : Simulation} {f g : Nat → SimNode → SimNode} {frames more : Nat}

theorem Turns.refl (s : Simulation) : Turns (fun _ n => n) 0 s s := by
  refine ⟨fun j => ?_, rfl, rfl, rfl, rfl⟩
  rw [Option.map_id']

theorem Turns.trans (h : Turns f frames s s') (h' : Turns g more s' s'') :
    Turns (fun j n => g j (f j n)) (frames + more) s s'' := by
  refine ⟨fun j => ?_, h'.setup.trans h.setup, h'.draws.trans h.draws, h'.now.trans h.now, ?_⟩
  · rw [h'.nodes, h.nodes, Option.map_map]
    rfl
  · rw [h'.transmitted, h.transmitted, Nat.add_assoc]

theorem Turns.congr (h : Turns f frames s s')
    (hsame : ∀ j n, s.nodes[j]? = some n → f j n = g j n) : Turns g frames s s' := by
  refine ⟨fun j => ?_, h.setup, h.draws, h.now, h.transmitted⟩
  rw [h.nodes]
  cases hn : s.nodes[j]? with
  | none => rfl
  | some n => exact congrArg some (hsame j n hn)

theorem Turns.length (h : Turns f frames s s') : s'.nodes.length = s.nodes.length := by
  have hnone : ∀ j, s'.nodes.length ≤ j ↔ s.nodes.length ≤ j := by
    intro j
    rw [← List.getElem?_eq_none_iff, ← List.getElem?_eq_none_iff, h.nodes, Option.map_eq_none_iff]
  exact Nat.le_antisymm ((hnone _).mpr (Nat.le_refl _)) ((hnone _).mp (Nat.le_refl _))

theorem nodes_setDevice (s : Simulation) (index : Nat) (d : Device) (j : Nat) :
    (s.setDevice index d).nodes[j]? =
      (s.nodes[j]?).map fun n => if index = j then { n with device := d } else n := by
  unfold setDevice
  rw [List.getElem?_modify]
  rfl

theorem nodes_setDevice_self {index : Nat} {n : SimNode} (hn : s.nodes[index]? = some n)
    (d : Device) : (s.setDevice index d).nodes[index]? = some { n with device := d } := by
  rw [nodes_setDevice, hn]
  simp only [if_true, Option.map_some]

theorem nodes_setDevice_ne (s : Simulation) {index j : Nat} (hj : index ≠ j) (d : Device) :
    (s.setDevice index d).nodes[j]? = s.nodes[j]? := by
  rw [nodes_setDevice]
  simp only [if_neg hj, Option.map_id']

theorem length_setDevice (s : Simulation) (index : Nat) (d : Device) :
    (s.setDevice index d).nodes.length = s.nodes.length :=
  List.length_modify ..

/-! ## Propagation -/

variable {sender receiver : Nat} {place : Position} {frame : Bytes}

theorem turns_hear (sender : Nat) (place : Position) (frame : Bytes) (s : Simulation)
    (receiver : Nat) :
    Turns (fun j n => if j = receiver ∧ j ≠ sender then
      n.take (n.catches s.setup.medium place [frame]) else n) 0 s
      (hear sender place frame s receiver) := by
  unfold hear
  split
  · rename_i hsame
    refine (Turns.refl s).congr ?_
    intro j n hn
    rw [if_neg]
    rintro ⟨rfl, hne⟩
    exact hne hsame
  · rename_i hne
    split
    · rename_i hnone
      refine (Turns.refl s).congr ?_
      intro j n hn
      rw [if_neg]
      rintro ⟨rfl, _⟩
      rw [hnone] at hn
      cases hn
    · rename_i node hnode
      simp only
      split
      · rename_i hheard
        refine Turns.congr (f := fun j n => if receiver = j then { n with device := _ } else n)
          ⟨fun j => nodes_setDevice s receiver _ j, rfl, rfl, rfl, rfl⟩ ?_
        intro j n hn
        by_cases hj : receiver = j
        · subst hj
          rw [hnode] at hn
          cases hn
          rw [if_pos rfl, if_pos ⟨rfl, hne⟩]
          unfold SimNode.take SimNode.catches
          rw [if_pos hheard]
          rfl
        · rw [if_neg hj, if_neg fun h => hj h.1.symm]
      · rename_i hlost
        refine Turns.congr (f := fun _ n => n)
          ⟨(Turns.refl s).nodes, rfl, rfl, rfl, rfl⟩ ?_
        intro j n hn
        split
        · rename_i hj
          rw [hj.1, hnode] at hn
          cases hn
          unfold SimNode.catches
          rw [if_neg hlost, SimNode.take_nil]
        · rfl

theorem turns_hearAll (sender : Nat) (place : Position) (frame : Bytes) (s : Simulation)
    (count : Nat) :
    Turns (fun j n => if j < count ∧ j ≠ sender then n.take (n.catches s.setup.medium place [frame])
      else n) 0 s ((List.range count).foldl (hear sender place frame) s) := by
  induction count with
  | zero =>
    refine (Turns.refl s).congr fun j n _ => ?_
    rw [if_neg fun h => Nat.not_lt_zero j h.1]
  | succ count ih =>
    rw [List.range_succ, List.foldl_append]
    have hlast := turns_hear sender place frame
      ((List.range count).foldl (hear sender place frame) s) count
    rw [ih.setup] at hlast
    refine (ih.trans hlast).congr ?_
    intro j n _
    by_cases hsender : j = sender
    · rw [if_neg fun h => h.2 hsender, if_neg fun h => h.2 hsender, if_neg fun h => h.2 hsender]
    · by_cases hj : j = count
      · rw [if_pos ⟨hj, hsender⟩, if_neg fun h => absurd h.1 (by omega),
          if_pos ⟨by omega, hsender⟩]
      · rw [if_neg fun h => hj h.1]
        by_cases hlt : j < count
        · rw [if_pos ⟨hlt, hsender⟩, if_pos ⟨by omega, hsender⟩]
        · rw [if_neg fun h => hlt h.1, if_neg fun h => absurd h.1 (by omega)]

theorem turns_transmitFrame (sender : Nat) (place : Position) (s : Simulation) (frame : Bytes) :
    Turns (fun j n => if j ≠ sender then n.take (n.catches s.setup.medium place [frame]) else n) 1 s
      (transmitFrame sender place s frame) := by
  have hcounted : Turns (fun _ n => n) 1 s ({ s with
      stats.framesTransmitted := s.stats.framesTransmitted + 1 : Simulation }.note
        (.frameTransmitted sender frame.length)) :=
    ⟨(Turns.refl s).nodes, rfl, rfl, rfl, rfl⟩
  refine (hcounted.trans (turns_hearAll sender place frame _ s.nodes.length)).congr ?_
  intro j n hn
  obtain ⟨hj, _⟩ := List.getElem?_eq_some_iff.mp hn
  by_cases hsender : j = sender
  · rw [if_neg fun h => h.2 hsender, if_neg fun h => h hsender]
  · rw [if_pos ⟨hj, hsender⟩, if_pos hsender]
    rfl

theorem turns_transmitFrames (sender : Nat) (place : Position) (s : Simulation)
    (frames : List Bytes) :
    Turns (fun j n => if j ≠ sender then n.take (n.catches s.setup.medium place frames) else n)
      frames.length s (frames.foldl (transmitFrame sender place) s) := by
  induction frames generalizing s with
  | nil =>
    refine (Turns.refl s).congr fun j n _ => ?_
    rw [SimNode.catches_nil, SimNode.take_nil, ite_self]
  | cons frame frames ih =>
    have hfirst := turns_transmitFrame sender place s frame
    have hrest := ih (transmitFrame sender place s frame)
    rw [hfirst.setup] at hrest
    rw [List.foldl_cons, List.length_cons, Nat.add_comm]
    refine (hfirst.trans hrest).congr ?_
    intro j n _
    split
    · rw [show frame :: frames = [frame] ++ frames from rfl, SimNode.catches_append,
        ← SimNode.take_take]
      rfl
    · rfl

/-- What one node hears of another in a step. -/
def between (s : Simulation) (sender receiver : Nat) : List (Bytes × Int16) :=
  match s.nodes[sender]?, s.nodes[receiver]? with
  | some a, some b =>
    if receiver = sender then [] else b.catches s.setup.medium a.position a.device.radio.outbox
  | _, _ => []

/-- How many frames wait at a node. -/
def waiting (s : Simulation) (index : Nat) : Nat :=
  match s.nodes[index]? with
  | some n => n.device.radio.outbox.length
  | none => 0

/-- All that a node hears in a step, in the order of the senders. -/
def arriving (s : Simulation) (receiver : Nat) : List (Bytes × Int16) :=
  (List.range s.nodes.length).flatMap fun sender => s.between sender receiver

theorem turns_transmitFrom (s : Simulation) (sender : Nat) :
    Turns (fun j n => if j = sender then n.emptied else n.take (s.between sender j))
      (s.waiting sender) s (s.transmitFrom sender) := by
  unfold transmitFrom
  cases hsender : s.nodes[sender]? with
  | none =>
    have hnothing : s.waiting sender = 0 := by
      unfold waiting
      rw [hsender]
    rw [hnothing]
    refine (Turns.refl s).congr fun j n hn => ?_
    split
    · rename_i hj
      rw [hj, hsender] at hn
      cases hn
    · unfold between
      rw [hsender, SimNode.take_nil]
  | some node =>
    have hcount : s.waiting sender = 0 + node.device.radio.outbox.length := by
      unfold waiting
      rw [hsender, Nat.zero_add]
    have htaken : Turns (fun j n => if sender = j then { n with device := _ } else n) 0 s
        (s.setDevice sender
          { node.device with radio := { node.device.radio with outbox := [] } }) :=
      ⟨fun j => nodes_setDevice s sender _ j, rfl, rfl, rfl, rfl⟩
    have hsent := turns_transmitFrames sender node.position
      (s.setDevice sender { node.device with radio := { node.device.radio with outbox := [] } })
      node.device.radio.outbox
    rw [hcount]
    refine (htaken.trans hsent).congr ?_
    intro j n hn
    by_cases hj : j = sender
    · subst hj
      rw [hsender] at hn
      cases hn
      rw [if_neg (fun h => h rfl), if_pos rfl, if_pos rfl]
      rfl
    · rw [if_pos hj, if_neg (Ne.symm hj), if_neg hj]
      unfold between
      rw [hsender, hn]
      simp only
      rw [if_neg hj]
      rfl

/-- The order of the senders is the order in the inboxes: no sender takes anything
off that an earlier one has put on. -/
theorem turns_transmitAll (s : Simulation) (count : Nat) :
    Turns (fun j n => if j < count then
        (n.take ((List.range count).flatMap fun sender => s.between sender j)).emptied
      else n.take ((List.range count).flatMap fun sender => s.between sender j))
      (∑ i ∈ Finset.range count, s.waiting i) s ((List.range count).foldl transmitFrom s) := by
  induction count with
  | zero =>
    refine (Turns.refl s).congr fun j n _ => ?_
    rw [if_neg (Nat.not_lt_zero j)]
    exact n.take_nil.symm
  | succ count ih =>
    have hlast := turns_transmitFrom ((List.range count).foldl transmitFrom s) count
    -- the next sender has its outbox still, and everybody stands where it did
    have hsender : ((List.range count).foldl transmitFrom s).nodes[count]? = (s.nodes[count]?).map
        fun n => n.take ((List.range count).flatMap fun sender => s.between sender count) := by
      rw [ih.nodes]
      simp only [Nat.lt_irrefl, if_false]
    have hwaiting : ((List.range count).foldl transmitFrom s).waiting count = s.waiting count := by
      unfold waiting
      rw [hsender]
      cases s.nodes[count]? with
      | none => rfl
      | some n => rfl
    have hbetween : ∀ j, j ≠ count →
        ((List.range count).foldl transmitFrom s).between count j = s.between count j := by
      intro j hj
      unfold between
      rw [hsender, ih.nodes, ih.setup]
      cases s.nodes[count]? with
      | none => rfl
      | some a =>
        cases s.nodes[j]? with
        | none => rfl
        | some b =>
          simp only [Option.map_some]
          rw [if_neg hj, if_neg hj]
          split <;> rfl
    rw [List.range_succ, List.foldl_append, Finset.sum_range_succ]
    rw [hwaiting] at hlast
    refine (ih.trans hlast).congr ?_
    intro j n _
    rw [List.flatMap_append, ← SimNode.take_take, List.flatMap_singleton]
    by_cases hj : j = count
    · subst hj
      have hself : s.between j j = [] := by
        unfold between
        cases s.nodes[j]? with
        | none => rfl
        | some n => exact if_pos rfl
      rw [if_pos rfl, if_neg (Nat.lt_irrefl j), if_pos (Nat.lt_succ_self j), hself,
        SimNode.take_nil]
    · rw [if_neg hj, hbetween j hj]
      by_cases hlt : j < count
      · rw [if_pos hlt, if_pos (by omega)]
        rfl
      · rw [if_neg hlt, if_neg (by omega)]

theorem turns_propagate (s : Simulation) :
    Turns (fun j n => (n.take (s.arriving j)).emptied)
      (∑ i ∈ Finset.range s.nodes.length, s.waiting i) s s.propagate := by
  refine (turns_transmitAll s s.nodes.length).congr ?_
  intro j n hn
  obtain ⟨hj, _⟩ := List.getElem?_eq_some_iff.mp hn
  rw [if_pos hj]
  rfl

/-! ## Polls -/

/-- Of a node that is polled with these draws, nothing but the device changes. -/
structure Polled (now : UInt64) (before after : Draws) (n n' : SimNode) : Prop where
  drained : drainDevice n.device now before = (.ok (), n'.device, after)
  position : n'.position = n.position

theorem pollAll_eq (count first : Nat) (s : Simulation) (hcount : first + count = s.nodes.length)
    (hdrains : ∀ (i : Nat) (n : SimNode), first ≤ i → s.nodes[i]? = some n → ∀ draws,
      ∃ m after, drainDevice n.device s.now draws = (.ok (), m, after)) :
    ∃ (s' : Simulation) (draws : Nat → Draws),
      s.pollAll (List.range' first count) = (.ok (), s') ∧
      s'.setup = s.setup ∧ s'.now = s.now ∧
      s'.stats.framesTransmitted = s.stats.framesTransmitted ∧
      s'.nodes.length = s.nodes.length ∧
      draws first = s.draws ∧ s'.draws = draws (first + count) ∧
      (∀ i, i < first → s'.nodes[i]? = s.nodes[i]?) ∧
      ∀ (i : Nat) (n : SimNode), first ≤ i → s.nodes[i]? = some n →
        ∃ n', s'.nodes[i]? = some n' ∧ Polled s.now (draws i) (draws (i + 1)) n n' := by
  induction count generalizing first s with
  | zero =>
    refine ⟨s, fun _ => s.draws, rfl, rfl, rfl, rfl, rfl, rfl, rfl, fun _ _ => rfl, ?_⟩
    intro i n hi hn
    obtain ⟨hlt, _⟩ := List.getElem?_eq_some_iff.mp hn
    omega
  | succ count ih =>
    obtain ⟨node, hnode⟩ : ∃ node, s.nodes[first]? = some node :=
      ⟨_, List.getElem?_eq_getElem (by omega)⟩
    obtain ⟨m, after, hdrain⟩ := hdrains first node (Nat.le_refl first) hnode s.draws
    let s₁ : Simulation := { s.setDevice first m with draws := after }
    have hdevice : s.device? first = some node.device := by
      unfold device?
      rw [hnode]
      rfl
    have hpolled : (s.onDevice first fun d draws => drainDevice d s.now draws) =
        (some (.ok ()), s₁) := by
      unfold onDevice
      rw [hdevice]
      simp only
      rw [hdrain]
    have hlength : s₁.nodes.length = s.nodes.length := length_setDevice s first m
    have hother : ∀ j, first ≠ j → s₁.nodes[j]? = s.nodes[j]? :=
      fun j hj => nodes_setDevice_ne s hj m
    have hfirst : s₁.nodes[first]? = some { node with device := m } := nodes_setDevice_self hnode m
    have hrest : ∀ (i : Nat) (n : SimNode), first + 1 ≤ i → s₁.nodes[i]? = some n → ∀ draws,
        ∃ m after, drainDevice n.device s₁.now draws = (.ok (), m, after) := by
      intro i n hi hn draws
      rw [hother i (by omega)] at hn
      exact hdrains i n (by omega) hn draws
    obtain ⟨s', draws, hrun, hsetup, hnow, hframes, hlen, hstart, hend, hbefore, hpolls⟩ :=
      ih (first + 1) s₁ (by rw [hlength]; omega) hrest
    refine ⟨s', fun i => if i = first then s.draws else draws i, ?_, hsetup, hnow, hframes,
      hlen.trans hlength, if_pos rfl, ?_, ?_, ?_⟩
    · rw [List.range'_succ]
      unfold pollAll
      rw [hpolled]
      exact hrun
    · have hlater : first + (count + 1) ≠ first := by omega
      simp only [if_neg hlater]
      rw [hend, Nat.add_assoc, Nat.add_comm 1 count]
    · intro i hi
      rw [hbefore i (by omega), hother i (by omega)]
    · intro i n hi hn
      by_cases hfirst' : i = first
      · subst hfirst'
        rw [hnode] at hn
        cases hn
        refine ⟨{ node with device := m }, (hbefore i (by omega)).trans hfirst, ?_, rfl⟩
        simp only [if_true, if_neg (Nat.succ_ne_self i)]
        rw [hstart]
        exact hdrain
      · have hlater : i + 1 ≠ first := by omega
        simp only [if_neg hfirst', if_neg hlater]
        exact hpolls i n (by omega) ((hother i (Ne.symm hfirst')).trans hn)

/-! ## Accounts -/

/-- Accounts change neither devices nor places nor the counts of frames. -/
structure Accounted (s s' : Simulation) : Prop where
  nodes : ∀ j : Nat, (s'.nodes[j]?).map (fun n => (n.device, n.position)) =
    (s.nodes[j]?).map fun n => (n.device, n.position)
  setup : s'.setup = s.setup
  draws : s'.draws = s.draws
  now : s'.now = s.now
  transmitted : s'.stats.framesTransmitted = s.stats.framesTransmitted
  received : s'.stats.framesReceived = s.stats.framesReceived
  lost : s'.stats.framesLost = s.stats.framesLost

theorem Accounted.refl (s : Simulation) : s.Accounted s :=
  ⟨fun _ => rfl, rfl, rfl, rfl, rfl, rfl, rfl⟩

theorem Accounted.trans (h : s.Accounted s') (h' : s'.Accounted s'') : s.Accounted s'' :=
  ⟨fun j => (h'.nodes j).trans (h.nodes j), h'.setup.trans h.setup, h'.draws.trans h.draws,
    h'.now.trans h.now, h'.transmitted.trans h.transmitted, h'.received.trans h.received,
    h'.lost.trans h.lost⟩

theorem Accounted.length (h : s.Accounted s') : s'.nodes.length = s.nodes.length := by
  have hnone : ∀ j, s'.nodes.length ≤ j ↔ s.nodes.length ≤ j := by
    intro j
    have hj := congrArg Option.isNone (h.nodes j)
    rw [Option.isNone_map, Option.isNone_map] at hj
    rw [← List.getElem?_eq_none_iff, ← List.getElem?_eq_none_iff, ← Option.isNone_iff_eq_none,
      ← Option.isNone_iff_eq_none, hj]
  exact Nat.le_antisymm ((hnone _).mpr (Nat.le_refl _)) ((hnone _).mp (Nat.le_refl _))

/-- Devices and places are found again. -/
theorem Accounted.node (h : s.Accounted s') {j : Nat} {n : SimNode} (hn : s.nodes[j]? = some n) :
    ∃ n', s'.nodes[j]? = some n' ∧ n'.device = n.device ∧ n'.position = n.position := by
  have hj := h.nodes j
  rw [hn, Option.map_some, Option.map_eq_some_iff] at hj
  obtain ⟨n', hn', hsame⟩ := hj
  exact ⟨n', hn', congrArg Prod.fst hsame, congrArg Prod.snd hsame⟩

theorem accounted_foldl {α β : Type} {work : Simulation × β → α → Simulation × β}
    (hwork : ∀ (acc : Simulation × β) (a : α), acc.1.Accounted (work acc a).1)
    (acc : Simulation × β) (l : List α) :
    acc.1.Accounted (l.foldl work acc).1 := by
  induction l generalizing acc with
  | nil => exact Accounted.refl _
  | cons a l ih => exact (hwork acc a).trans (ih (work acc a))

theorem accounted_accountDelivery (index : Nat) (acc : Simulation × Float) (d : Delivery) :
    acc.1.Accounted (accountDelivery index acc d).1 := by
  unfold accountDelivery
  simp only
  split
  · exact ⟨fun _ => rfl, rfl, rfl, rfl, rfl, rfl, rfl⟩
  · split
    · exact ⟨fun _ => rfl, rfl, rfl, rfl, rfl, rfl, rfl⟩
    · exact ⟨fun _ => rfl, rfl, rfl, rfl, rfl, rfl, rfl⟩

theorem accounted_accountNode (acc : Simulation × Float) (index : Nat) :
    acc.1.Accounted (accountNode acc index).1 := by
  unfold accountNode
  split
  · exact Accounted.refl _
  · rename_i node _
    simp only
    have hdeliveries := accounted_foldl (accounted_accountDelivery index) acc
      (node.device.router.handed.drop node.seen)
    generalize (node.device.router.handed.drop node.seen).foldl (accountDelivery index) acc =
      counted at hdeliveries ⊢
    have hnotes : ∀ (s : Simulation) (events : List InclusionEvent),
        s.Accounted (events.foldl (fun s event => s.note (.inclusion index event)) s) := by
      intro s events
      induction events generalizing s with
      | nil => exact Accounted.refl s
      | cons event events ih =>
        have hnote : s.Accounted (s.note (.inclusion index event)) :=
          ⟨fun _ => rfl, rfl, rfl, rfl, rfl, rfl, rfl⟩
        exact hnote.trans (ih _)
    have hnoted := hdeliveries.trans (hnotes counted.1
      (node.device.notified.drop node.seenInclusions))
    refine hnoted.trans ⟨fun j => ?_, rfl, rfl, rfl, rfl, rfl, rfl⟩
    simp only
    rw [List.getElem?_modify]
    generalize (List.foldl _ counted.1 _ : Simulation).nodes[j]? = found
    cases found with
    | none => rfl
    | some n =>
      simp only [Option.map_some]
      split <;> rfl

theorem accounted_account (s : Simulation) : s.Accounted s.account := by
  unfold account
  simp only
  have hnodes := accounted_foldl accounted_accountNode
    (s, s.stats.averageHops * s.stats.messagesDelivered.toFloat) (List.range s.nodes.length)
  split
  · exact hnodes.trans ⟨fun _ => rfl, rfl, rfl, rfl, rfl, rfl, rfl⟩
  · exact hnodes

/-! ## Steps -/

/-- The router of a node that has sent what it had and has these frames to hear. -/
def facing (n : SimNode) (entries : List (Bytes × Int16)) (draws : Draws) : Station where
  router := n.device.router
  radio := { n.device.radio with outbox := [], inbox := entries }
  draws := draws

def hearing (n : SimNode) (entries : List (Bytes × Int16)) (now : Nat) (draws : Draws) : Station :=
  entries.foldl (Station.attend n.device.keys now) (facing n entries draws)

/-- A node has heard these frames. -/
structure Served (entries : List (Bytes × Int16)) (now : Nat) (before after : Draws)
    (n n' : SimNode) : Prop where
  position : n'.position = n.position
  device : n.device.Resembles n'.device
  router : n'.device.router = (hearing n entries now before).router.sweep now
  radio : n'.device.radio = (hearing n entries now before).radio
  draws : after = (hearing n entries now before).draws

/-- Every node has heard what reached it, one after the other with these draws. -/
structure Stepped (s s' : Simulation) (draws : Nat → Draws) : Prop where
  setup : s'.setup = s.setup
  now : s'.now = s.now + s.setup.stepTime
  length : s'.nodes.length = s.nodes.length
  transmitted : s'.stats.framesTransmitted =
    s.stats.framesTransmitted + ∑ i ∈ Finset.range s.nodes.length, s.waiting i
  first : draws 0 = s.draws
  last : s'.draws = draws s.nodes.length
  node : ∀ (i : Nat) (n : SimNode), s.nodes[i]? = some n →
    ∃ n', s'.nodes[i]? = some n' ∧
      Served (s.arriving i) s'.now.toNat (draws i) (draws (i + 1)) n n'

/-- As long as nobody draws anything, the next one draws what the first one would have. -/
theorem Stepped.draws_eq {draws : Nat → Draws} (h : Stepped s s' draws) {count : Nat}
    (hquiet : ∀ j, j < count → draws (j + 1) = draws j) : draws count = s.draws := by
  induction count with
  | zero => exact h.first
  | succ count ih =>
    have hlast := hquiet count (Nat.lt_succ_self count)
    exact hlast.trans (ih fun j hj => hquiet j (Nat.lt_succ_of_lt hj))

/-- A simulation at rest but for what waits to be sent: all devices work, have heard
everything and send nothing of a handshake. -/
structure IsReady (provider : CryptoProvider) (key : MeshKey) (s : Simulation) : Prop where
  works : ∀ n ∈ s.nodes, n.device.Works provider key
  inbox : ∀ n ∈ s.nodes, n.device.radio.inbox = []
  plain : ∀ n ∈ s.nodes, ∀ frame ∈ n.device.radio.outbox, IsPlain frame

variable {provider : CryptoProvider} {key : MeshKey}

theorem mem_between {receiver : Nat} {sender : Nat} {entry : Bytes × Int16}
    (h : entry ∈ s.between sender receiver) :
    ∃ a b, s.nodes[sender]? = some a ∧ s.nodes[receiver]? = some b ∧ receiver ≠ sender ∧
      isHeard s.setup.medium (s.setup.medium.rssi a.position b.position) = true ∧
      entry.1 ∈ a.device.radio.outbox := by
  unfold between at h
  split at h
  · rename_i a b ha hb
    split at h
    · cases h
    · rename_i hne
      unfold SimNode.catches at h
      split at h
      · rename_i hheard
        obtain ⟨frame, hframe, rfl⟩ := List.mem_map.mp h
        exact ⟨a, b, ha, hb, hne, hheard, hframe⟩
      · cases h
  · cases h

theorem IsReady.plain_arriving (h : s.IsReady provider key) {receiver : Nat}
    {entry : Bytes × Int16} (hentry : entry ∈ s.arriving receiver) : IsPlain entry.1 := by
  obtain ⟨sender, _, hbetween⟩ := List.mem_flatMap.mp hentry
  obtain ⟨a, b, ha, _, _, _, hframe⟩ := mem_between hbetween
  exact h.plain a (List.mem_of_getElem? ha) entry.1 hframe

/-- A node that has sent what it had gets through what it hears. -/
theorem IsReady.drainDevice_eq (h : s.IsReady provider key) (hfaithful : provider.IsFaithful)
    {i : Nat} {n : SimNode} (hn : s.nodes[i]? = some n) (now : UInt64) (draws : Draws) :
    ∃ m, drainDevice (n.take (s.arriving i)).emptied.device now draws =
        (.ok (), m, (hearing n (s.arriving i) now.toNat draws).draws) ∧
      n.device.Resembles m ∧
      m.router = (hearing n (s.arriving i) now.toNat draws).router.sweep now.toNat ∧
      m.radio = (hearing n (s.arriving i) now.toNat draws).radio := by
  have hmem := List.mem_of_getElem? hn
  have hworks := h.works n hmem
  have hinbox : (n.take (s.arriving i)).emptied.device.radio.inbox = s.arriving i := by
    change n.device.radio.inbox ++ s.arriving i = s.arriving i
    rw [h.inbox n hmem, List.nil_append]
  obtain ⟨m, hdrain, hresembles, hrouter, hradio⟩ :=
    Simulation.drainDevice_eq (d := (n.take (s.arriving i)).emptied.device)
      ⟨hworks.keys, hworks.sends, hworks.receives, hworks.stores⟩ hfaithful
      (by rw [hinbox]; exact fun entry hentry => h.plain_arriving hentry) now draws
  have hsame : attended (n.take (s.arriving i)).emptied.device now.toNat draws =
      hearing n (s.arriving i) now.toNat draws := by
    unfold attended hearing facing
    rw [hinbox]
    unfold Device.station SimNode.emptied SimNode.take
    rw [h.inbox n hmem]
    rfl
  rw [hsame] at hdrain hrouter hradio
  exact ⟨m, hdrain, ⟨hresembles.config, hresembles.keys, hresembles.accepts⟩, hrouter, hradio⟩

theorem step_eq (h : s.IsReady provider key) (hfaithful : provider.IsFaithful) :
    ∃ s' draws, s.step = (.ok (), s') ∧ Stepped s s' draws := by
  have hair := turns_propagate s.tick
  have hlength : s.tick.propagate.nodes.length = s.nodes.length := hair.length
  have hface : ∀ (i : Nat) (n : SimNode), s.nodes[i]? = some n →
      s.tick.propagate.nodes[i]? = some (n.take (s.arriving i)).emptied := by
    intro i n hn
    rw [hair.nodes]
    change (s.nodes[i]?).map _ = _
    rw [hn]
    rfl
  obtain ⟨polled, draws, hpoll, hsetup, hnow, hframes, hlen, hfirst, hlast, _, hpolls⟩ :=
    pollAll_eq s.tick.propagate.nodes.length 0 s.tick.propagate (Nat.zero_add _)
      (by
        intro i m _ hm draws
        obtain ⟨hi, _⟩ := List.getElem?_eq_some_iff.mp hm
        have hn := List.getElem?_eq_getElem (hlength ▸ hi)
        obtain rfl := Option.some.inj (hm.symm.trans (hface i _ hn))
        obtain ⟨after, hdrain, _⟩ := h.drainDevice_eq hfaithful hn s.tick.propagate.now draws
        exact ⟨after, _, hdrain⟩)
  have haccount := accounted_account polled
  have htime : polled.account.now = s.tick.propagate.now := haccount.now.trans hnow
  refine ⟨polled.account, draws, ?_, ?_, ?_, ?_, ?_, ?_, ?_, ?_⟩
  · unfold step
    simp only
    rw [List.range_eq_range', hpoll]
  · rw [haccount.setup, hsetup, hair.setup]
    rfl
  · rw [htime, hair.now]
    rfl
  · rw [haccount.length, hlen, hlength]
  · rw [haccount.transmitted, hframes, hair.transmitted]
    rfl
  · rw [hfirst, hair.draws]
    rfl
  · rw [haccount.draws, hlast, Nat.zero_add, hlength]
  · intro i n hn
    obtain ⟨n₁, hn₁, hpolled⟩ := hpolls i _ (Nat.zero_le i) (hface i n hn)
    obtain ⟨m, hdrain, hresembles, hrouter, hradio⟩ :=
      h.drainDevice_eq hfaithful hn s.tick.propagate.now (draws i)
    obtain ⟨n', hn', hdevice, hposition⟩ := haccount.node hn₁
    have hsame := hpolled.drained.symm.trans hdrain
    have hm : n'.device = m := hdevice.trans (congrArg (fun result => result.2.1) hsame)
    have hafter : draws (i + 1) = _ := congrArg (fun result => result.2.2) hsame
    refine ⟨n', hn', hposition.trans hpolled.position, hm ▸ hresembles, ?_, ?_, ?_⟩
    · rw [hm, htime]
      exact hrouter
    · rw [hm, htime]
      exact hradio
    · rw [htime]
      exact hafter

/-- What no frame changes of the radio of a node. -/
theorem hearing_radio (n : SimNode) (entries : List (Bytes × Int16)) (now : Nat) (draws : Draws) :
    ∃ outbox rssi, (hearing n entries now draws).radio =
      { n.device.radio with inbox := [], outbox := outbox, rssi := rssi } := by
  have hfold : ∀ (entries : List (Bytes × Int16)) (st : Station), ∃ outbox rssi,
      (entries.foldl (Station.attend n.device.keys now) st).radio =
        { st.radio with
          inbox := st.radio.inbox.drop entries.length
          outbox := outbox
          rssi := rssi } := by
    intro entries
    induction entries with
    | nil => exact fun st => ⟨st.radio.outbox, st.radio.rssi, rfl⟩
    | cons entry entries ih =>
      intro st
      obtain ⟨outbox, hfirst⟩ := Station.attend_radio n.device.keys now st entry
      obtain ⟨outbox', rssi, hrest⟩ := ih (Station.attend n.device.keys now st entry)
      rw [hfirst] at hrest
      refine ⟨outbox', rssi, hrest.trans ?_⟩
      simp only [List.length_cons, List.drop_tail]
  obtain ⟨outbox, rssi, h⟩ := hfold entries (facing n entries draws)
  refine ⟨outbox, rssi, h.trans ?_⟩
  unfold facing
  rw [List.drop_length]

theorem Served.works {entries : List (Bytes × Int16)} {now : Nat} {before after : Draws}
    {n n' : SimNode} (h : Served entries now before after n n')
    (hworks : n.device.Works provider key) :
    n'.device.Works provider key ∧ n'.device.radio.inbox = [] := by
  obtain ⟨outbox, rssi, hradio⟩ := hearing_radio n entries now before
  have hradio := h.radio.trans hradio
  refine ⟨⟨h.device.keys ▸ hworks.keys, ?_, ?_, h.device.accepts⟩, by rw [hradio]⟩
  · rw [hradio]
    exact hworks.sends
  · rw [hradio]
    exact hworks.receives

section Served

variable {entries : List (Bytes × Int16)} {now : Nat} {before after : Draws} {n n' : SimNode}

theorem Served.handed (h : Served entries now before after n n') :
    n'.device.router.handed = (hearing n entries now before).router.handed := by
  rw [h.router]
  rfl

theorem Served.outbox (h : Served entries now before after n n') :
    n'.device.radio.outbox = (hearing n entries now before).radio.outbox :=
  congrArg Radio.outbox h.radio

/-- What was not heard is still unheard of after the last sweep. -/
theorem Served.not_contains (h : Served entries now before after n n') {message : MessageKey}
    {time : Nat}
    (hnew : (hearing n entries now before).router.tracker.contains message time = false) :
    n'.device.router.tracker.contains message time = false := by
  rw [h.router]
  exact DuplicateTracker.not_contains_evict hnew

end Served

/-- A node that has only routed since: it stands where it stood and is set up as it
was, still works, and has heard everything. -/
structure Endures (provider : CryptoProvider) (key : MeshKey) (n n' : SimNode) : Prop where
  position : n'.position = n.position
  device : n.device.Resembles n'.device
  router : n.device.router.Alike n'.device.router
  works : n'.device.Works provider key
  inbox : n'.device.radio.inbox = []

theorem alike_hearing (n : SimNode) (entries : List (Bytes × Int16)) (now : Nat) (draws : Draws) :
    n.device.router.Alike (hearing n entries now draws).router := by
  have hfold : ∀ (entries : List (Bytes × Int16)) (st : Station),
      st.router.Alike (entries.foldl (Station.attend n.device.keys now) st).router := by
    intro entries
    induction entries with
    | nil => exact fun st => Router.Alike.refl st.router
    | cons entry entries ih =>
      exact fun st => (Station.alike_attend n.device.keys now st entry).trans (ih _)
  exact hfold entries (facing n entries draws)

theorem Served.endures {entries : List (Bytes × Int16)} {now : Nat} {before after : Draws}
    {n n' : SimNode} (h : Served entries now before after n n')
    (hworks : n.device.Works provider key) : Endures provider key n n' := by
  obtain ⟨hstill, hinbox⟩ := h.works hworks
  refine ⟨h.position, h.device, ?_, hstill, hinbox⟩
  rw [h.router]
  exact (alike_hearing n entries now before).trans (Router.forgets_sweep _ now).toAlike

theorem Endures.refl {n : SimNode} (hworks : n.device.Works provider key)
    (hinbox : n.device.radio.inbox = []) : Endures provider key n n :=
  ⟨rfl, ⟨rfl, rfl, hworks.stores⟩, Router.Alike.refl _, hworks, hinbox⟩

theorem Endures.trans {n n' n'' : SimNode} (h : Endures provider key n n')
    (h' : Endures provider key n' n'') : Endures provider key n n'' :=
  ⟨h'.position.trans h.position, h.device.trans h'.device, h.router.trans h'.router, h'.works,
    h'.inbox⟩

/-- All nodes have only routed since. -/
structure Endured (provider : CryptoProvider) (key : MeshKey) (s s' : Simulation) : Prop where
  setup : s'.setup = s.setup
  length : s'.nodes.length = s.nodes.length
  node : ∀ (i : Nat) (n : SimNode), s.nodes[i]? = some n →
    ∃ n', s'.nodes[i]? = some n' ∧ Endures provider key n n'

theorem Endured.before (h : Endured provider key s s') {i : Nat} {n' : SimNode}
    (hn' : s'.nodes[i]? = some n') :
    ∃ n, s.nodes[i]? = some n ∧ Endures provider key n n' := by
  obtain ⟨hi, _⟩ := List.getElem?_eq_some_iff.mp hn'
  rw [h.length] at hi
  obtain ⟨found, hfound, hendures⟩ := h.node i _ (List.getElem?_eq_getElem hi)
  rw [hn'] at hfound
  cases hfound
  exact ⟨_, List.getElem?_eq_getElem hi, hendures⟩

theorem Endured.step (h : Endured provider key s s') (hfaithful : provider.IsFaithful)
    (hplain : ∀ n ∈ s'.nodes, ∀ frame ∈ n.device.radio.outbox, IsPlain frame) :
    ∃ s'' draws, s'.step = (.ok (), s'') ∧ Stepped s' s'' draws ∧ Endured provider key s s'' := by
  have hendures : ∀ n' ∈ s'.nodes, ∃ n, Endures provider key n n' := by
    intro n' hn'
    obtain ⟨i, hi⟩ := List.mem_iff_getElem?.mp hn'
    obtain ⟨n, _, hn⟩ := h.before hi
    exact ⟨n, hn⟩
  have hready : s'.IsReady provider key := by
    refine ⟨fun n' hn' => ?_, fun n' hn' => ?_, hplain⟩
    · obtain ⟨n, hn⟩ := hendures n' hn'
      exact hn.works
    · obtain ⟨n, hn⟩ := hendures n' hn'
      exact hn.inbox
  obtain ⟨s'', draws, hstep, hstepped⟩ := step_eq hready hfaithful
  refine ⟨s'', draws, hstep, hstepped, hstepped.setup.trans h.setup,
    hstepped.length.trans h.length, ?_⟩
  intro i n hn
  obtain ⟨n', hn', hbefore⟩ := h.node i n hn
  obtain ⟨n'', hn'', hserved⟩ := hstepped.node i n' hn'
  exact ⟨n'', hn'', hbefore.trans (hserved.endures hbefore.works)⟩

theorem Endured.served (h : Endured provider key s s') {draws : Nat → Draws}
    (hstepped : Stepped s' s'' draws) {i : Nat} {n n'' : SimNode} (hn : s.nodes[i]? = some n)
    (hn'' : s''.nodes[i]? = some n'') :
    ∃ n', s'.nodes[i]? = some n' ∧ Endures provider key n n' ∧
      Served (s'.arriving i) s''.now.toNat (draws i) (draws (i + 1)) n' n'' := by
  obtain ⟨n', hn', hendures⟩ := h.node i n hn
  obtain ⟨found, hfound, hserved⟩ := hstepped.node i n' hn'
  rw [hn''] at hfound
  cases hfound
  exact ⟨n', hn', hendures, hserved⟩

/-! ## The clock -/

/-- What the clock shows after so many steps. -/
def clockAfter (s : Simulation) : Nat → UInt64
  | 0 => s.now
  | steps + 1 => s.clockAfter steps + s.setup.stepTime

theorem clockAfter_succ (s : Simulation) (steps : Nat) :
    s.clockAfter (steps + 1) = s.clockAfter steps + s.setup.stepTime := rfl

/-- What was recorded at one step is at a later one no older than all steps so far are
long: a clock that has started over makes it younger. -/
theorem age_clockAfter_le {earlier later : Nat} (h : earlier ≤ later) :
    (s.clockAfter later).toNat - (s.clockAfter earlier).toNat ≤
      later * s.setup.stepTime.toNat := by
  induction h with
  | refl =>
    rw [Nat.sub_self]
    exact Nat.zero_le _
  | @step later _ ih =>
    have hstep : (s.clockAfter (later + 1)).toNat ≤
        (s.clockAfter later).toNat + s.setup.stepTime.toNat := by
      rw [clockAfter_succ, UInt64.toNat_add]
      exact Nat.mod_le _ _
    rw [Nat.succ_mul]
    change (s.clockAfter (later + 1)).toNat - _ ≤ _
    omega

/-- Until it starts over, the clock shows how long all steps were. -/
theorem toNat_clockAfter {steps : Nat}
    (hclock : s.now.toNat + steps * s.setup.stepTime.toNat < UInt64.size) :
    (s.clockAfter steps).toNat = s.now.toNat + steps * s.setup.stepTime.toNat := by
  induction steps with
  | zero =>
    rw [Nat.zero_mul]
    rfl
  | succ steps ih =>
    rw [Nat.succ_mul, ← Nat.add_assoc] at hclock ⊢
    have hbefore := ih (Nat.lt_of_le_of_lt (Nat.le_add_right _ _) hclock)
    rw [clockAfter_succ, UInt64.toNat_add, hbefore]
    exact Nat.mod_eq_of_lt hclock

/-- What no tracker holds now is held by none at a later step, if nothing is sent and the
clock does not start over. -/
theorem not_contains_clockAfter {key : MessageKey} {steps : Nat}
    (hnew : ∀ a ∈ s.nodes, a.device.router.tracker.contains key s.now.toNat = false)
    (hclock : s.now.toNat + steps * s.setup.stepTime.toNat < UInt64.size) :
    ∀ a ∈ s.nodes, ∀ t ≤ steps,
      a.device.router.tracker.contains key (s.clockAfter t).toNat = false := by
  intro a ha t ht
  have hearlier : t * s.setup.stepTime.toNat ≤ steps * s.setup.stepTime.toNat :=
    Nat.mul_le_mul_right _ ht
  have htime : (s.clockAfter t).toNat = s.now.toNat + t * s.setup.stepTime.toNat :=
    toNat_clockAfter (by omega)
  refine DuplicateTracker.not_contains_of_le (hnew a ha) ?_
  rw [htime]
  exact Nat.le_add_right _ _

theorem Endured.now_succ (h : Endured provider key s s') {draws : Nat → Draws}
    (hstepped : Stepped s' s'' draws) {t : Nat} (hnow : s'.now = s.clockAfter t) :
    s''.now = s.clockAfter (t + 1) := by
  rw [hstepped.now, hnow, h.setup, clockAfter_succ]

/-! ## Runs -/

theorem run_add {steps : Nat} (hrun : s.run steps = (.ok (), s')) (more : Nat) :
    s.run (steps + more) = s'.run more := by
  induction steps generalizing s with
  | zero =>
    cases hrun
    rw [Nat.zero_add]
  | succ steps ih =>
    rw [Nat.add_right_comm, run]
    rw [run] at hrun
    split at hrun
    · cases hrun
    · exact ih hrun

/-- What holds at the start and after one more step whenever it held before holds
after all steps. -/
theorem run_of_step {P : Nat → Simulation → Prop} (steps : Nat) (hstart : P 0 s)
    (hstep : ∀ t s', t < steps → P t s' → ∃ s'', s'.step = (.ok (), s'') ∧ P (t + 1) s'') :
    ∃ s', s.run steps = (.ok (), s') ∧ P steps s' := by
  induction steps with
  | zero => exact ⟨s, rfl, hstart⟩
  | succ steps ih =>
    obtain ⟨s', hrun, hheld⟩ := ih fun t s' ht => hstep t s' (Nat.lt_succ_of_lt ht)
    obtain ⟨s'', hlast, hholds⟩ := hstep steps s' (Nat.lt_succ_self steps) hheld
    refine ⟨s'', (run_add hrun 1).trans ?_, hholds⟩
    unfold run
    rw [hlast]
    rfl

end Simulation
end Meshwork
