import Mathlib.Data.Set.Card
import Meshwork.Proofs.Simulation.Sending

/-!
# How far a message for everybody gets

Every node that a copy reaches for the first time hands the message over and sends a
copy of its own, one hop further, as long as hops are left. So the message gets one
step further away from its source with every step of the simulation, along shortest
walks, and the nodes it has reached know all that they hear of it later.
-/

namespace Meshwork
set_option autoImplicit false

namespace Simulation

variable {s s' s'' : Simulation} {mesh : Config} {provider : CryptoProvider} {key : MeshKey}
variable {source i d t now : Nat} {n n' n'' : SimNode} {m : Packet} {text : Bytes}
variable {entries : List (Bytes × Int16)} {draws : Draws}

/-! ## One node -/

/-- The first copy that a node hears of a message for everybody is the one it hands
over and sends on; it knows the others. -/
theorem hearing_first (now : Nat) (draws : Draws) {c : Config} {p : Packet} {entry : Bytes × Int16}
    (hworks : n.device.Works provider key) (hfits : n.device.router.FitsConfig c)
    (hvalid : c.IsValid) (hrelays : c.relayEnabled = true)
    (hlistens : n.device.router.hasHandler = true) (hdecode : Packet.decode entry.1 = .ok p)
    (hall : p.destination = .broadcast) (hplain : p.topic.isInclusion = false)
    (hknown : p.topic.isReserved = false) (hother : p.source ≠ n.device.router.nodeId)
    (hopens : n.device.keys.unsealText p.associatedData p.payload = .ok text)
    (hnew : n.device.router.tracker.contains p.key now = false)
    (hcopies : ∀ e ∈ entries, ∃ q, Packet.decode e.1 = .ok q ∧ q.key = p.key) :
    (hearing n (entry :: entries) now draws).router.tracker.Remembers p.key now [] ∧
      (hearing n (entry :: entries) now draws).router.handed =
        n.device.router.handed ++ [Delivery.ofPacket p text] ∧
      (hearing n (entry :: entries) now draws).radio.outbox =
        if p.hopCount < c.maxHops then
          [(p.copy (p.hopCount + 1) n.device.router.nodeId .broadcast).frame]
        else [] := by
  have hswept : (n.device.router.sweep now).FitsConfig c :=
    hfits.of_alike (Router.forgets_sweep _ now).toAlike
  have hstill : (n.device.router.sweep now).tracker.contains p.key now = false :=
    DuplicateTracker.not_contains_evict hnew
  obtain ⟨table, stats, hfirst⟩ := Station.attend_broadcast
    (s := facing n (entry :: entries) draws) hdecode hworks.sends hlistens
    (hfits.relayEnabled.trans hrelays) (hfits.nodeId ▸ hvalid.named) hstill hother hplain hknown
    hall hopens
  have hremembers := hswept.remembers hvalid hstill
  have hfresh : now - now < (n.device.router.sweep now).tracker.window := by
    rw [hswept.window, Nat.sub_self]
    exact hvalid.dedupWindow
  have hrest := Station.attend_remembered n.device.keys (s := Station.attend n.device.keys now
    (facing n (entry :: entries) draws) entry) (by rw [hfirst]; exact hremembers)
    (by rw [hfirst]; exact hfresh) hcopies
  obtain ⟨hkept, hstays⟩ := hrest
  refine ⟨hkept, hstays.handed.trans ?_, hstays.outbox.trans ?_⟩
  · rw [hfirst]
    rfl
  · rw [hfirst]
    change [] ++ (if p.hopCount < n.device.router.maxHops then _ else _) = _
    rw [List.nil_append, hfits.maxHops]
    rfl

/-! ## All nodes -/

/-- A node that the message reached over so many hops. -/
structure Reached (s : Simulation) (mesh : Config) (m : Packet) (text : Bytes) (d t : Nat)
    (n n' : SimNode) : Prop where
  remembers : n'.device.router.tracker.Remembers m.key (s.clockAfter d).toNat []
  handed : n'.device.router.handed = n.device.router.handed ++
    if d = 0 then [] else [{ Delivery.ofPacket m text with hopCount := UInt8.ofNat (d - 1) }]
  outbox : n'.device.radio.outbox = if d = t ∧ d ≤ mesh.maxHops.toNat then
      [(m.copy (UInt8.ofNat d) n.device.router.nodeId .broadcast).frame]
    else []

/-- A node that has not heard of the message: what is new to it was new to it before. -/
structure Unaware (m : Packet) (n n' : SimNode) : Prop where
  new : ∀ time, n.device.router.tracker.contains m.key time = false →
    n'.device.router.tracker.contains m.key time = false
  handed : n'.device.router.handed = n.device.router.handed
  outbox : n'.device.radio.outbox = []

/-- The message has gone for so many steps. -/
structure Flooded (s : Simulation) (mesh : Config) (provider : CryptoProvider) (key : MeshKey)
    (source : Nat) (m : Packet) (text : Bytes) (t : Nat) (s' : Simulation) : Prop where
  endured : Endured provider key s s'
  now : s'.now = s.clockAfter t
  transmitted : s'.stats.framesTransmitted = s.stats.framesTransmitted +
    {i | ∃ d, AtDistance s.Reaches source d i ∧ d < t ∧ d ≤ mesh.maxHops.toNat}.ncard
  reached : ∀ (i : Nat) (n n' : SimNode), s.nodes[i]? = some n → s'.nodes[i]? = some n' →
    ∀ d, AtDistance s.Reaches source d i → d ≤ t → d ≤ mesh.maxHops.toNat + 1 →
      Reached s mesh m text d t n n'
  unaware : ∀ (i : Nat) (n n' : SimNode), s.nodes[i]? = some n → s'.nodes[i]? = some n' →
    (∀ d, AtDistance s.Reaches source d i → d ≤ mesh.maxHops.toNat + 1 → t < d) →
      Unaware m n n'

/-- Copies are only on their way from the nodes that the last step has reached. -/
theorem Flooded.wave (h : Flooded s mesh provider key source m text t s') :
    Wave provider key s s' source t (t ≤ mesh.maxHops.toNat) fun n =>
      (m.copy (UInt8.ofNat t) n.device.router.nodeId .broadcast).frame := by
  refine ⟨h.endured, ?_, ?_⟩
  · intro i n n' hn hn' hwithin hdistance
    rw [(h.reached i n n' hn hn' t hdistance (Nat.le_refl t) (by omega)).outbox,
      if_pos ⟨rfl, hwithin⟩]
  · intro i n n' hn hn' frame hframe
    by_cases hd : ∃ d, AtDistance s.Reaches source d i ∧ d ≤ mesh.maxHops.toNat + 1 ∧ d ≤ t
    · obtain ⟨d, hdistance, hnear, hpast⟩ := hd
      rw [(h.reached i n n' hn hn' d hdistance hpast hnear).outbox] at hframe
      split at hframe
      · rename_i hnow
        obtain ⟨rfl, hwithin⟩ := hnow
        exact ⟨hwithin, hdistance, List.mem_singleton.mp hframe⟩
      · cases hframe
    · have hunaware := h.unaware i n n' hn hn' fun d hdistance hnear =>
        Nat.lt_of_not_le fun hpast => hd ⟨d, hdistance, hnear, hpast⟩
      rw [hunaware.outbox] at hframe
      cases hframe

/-- A message for everybody that a node of the mesh has sent. -/
structure Announced (s : Simulation) (mesh : Config) (provider : CryptoProvider) (key : MeshKey)
    (source : Nat) (m : Packet) (text : Bytes) : Prop where
  assembled : s.Assembled mesh provider key
  relays : mesh.relayEnabled = true
  carries : m.Carries provider key text
  known : m.topic.isReserved = false
  all : m.destination = .broadcast
  sender : ∃ n, s.nodes[source]? = some n ∧ m.source = n.device.nodeId

theorem Reached.again (hm : s.Announced mesh provider key source m text) (hn : n ∈ s.nodes)
    (hendures : Endures provider key n n') {after : Draws}
    (hserved : Served entries now draws after n' n'')
    (hcopies : ∀ entry ∈ entries, ∃ p, Packet.decode entry.1 = .ok p ∧ p.key = m.key)
    (hrecent : now - (s.clockAfter d).toNat < mesh.dedupWindow.toNat) (hpast : d ≤ t)
    (h : Reached s mesh m text d t n n') : Reached s mesh m text d (t + 1) n n'' := by
  have hwindow := window_of_alike hm.assembled hn hendures.router
  have hlater := window_of_alike hm.assembled hn
    (hendures.router.trans (alike_hearing n' entries now draws))
  have hheard := Station.attend_remembered n'.device.keys (s := facing n' entries draws)
    h.remembers (hwindow ▸ hrecent) hcopies
  obtain ⟨hkept, hstays⟩ := hheard
  refine ⟨?_, ?_, ?_⟩
  · rw [hserved.router]
    exact DuplicateTracker.Remembers.evict hkept (hlater ▸ hrecent)
  · exact hserved.handed.trans (hstays.handed.trans h.handed)
  · rw [hserved.outbox, if_neg (by omega)]
    exact hstays.outbox

theorem Announced.opens (hm : s.Announced mesh provider key source m text) {k : KeyRing}
    (hk : k.Holds provider key) (hop : UInt8) (last next : NodeId) :
    k.unsealText (m.copy hop last next).associatedData (m.copy hop last next).payload = .ok text :=
  hm.carries.opens k hk

theorem Announced.source_ne (hm : s.Announced mesh provider key source m text)
    (hn : s.nodes[i]? = some n) (hi : i ≠ source) : m.source ≠ n.device.router.nodeId := by
  obtain ⟨first, hfirst, hsource⟩ := hm.sender
  rw [hsource, hm.assembled.nodeId (List.mem_of_getElem? hn)]
  exact hm.assembled.nodeId_ne hfirst hn (Ne.symm hi)

theorem hop_lt_iff {hop limit : UInt8} {count : Nat} (hhop : hop = UInt8.ofNat count)
    (hcount : count ≤ limit.toNat) : hop < limit ↔ count + 1 ≤ limit.toNat := by
  rw [hhop, UInt8.lt_iff_toNat_lt, toNat_ofNat_of_le limit hcount]
  exact Iff.rfl

theorem Unaware.reached (hm : s.Announced mesh provider key source m text)
    (hn : s.nodes[i]? = some n) (hi : i ≠ source) (hendures : Endures provider key n n')
    {after : Draws} (hserved : Served entries (s.clockAfter (t + 1)).toNat draws after n' n'')
    (hnew : n.device.router.tracker.contains m.key (s.clockAfter (t + 1)).toNat = false)
    (hwithin : t ≤ mesh.maxHops.toNat) (hsome : entries ≠ [])
    (hcopies : ∀ entry ∈ entries, ∃ last, entry.1 = (m.copy (UInt8.ofNat t) last .broadcast).frame)
    (h : Unaware m n n') : Reached s mesh m text (t + 1) (t + 1) n n'' := by
  have hmem := List.mem_of_getElem? hn
  obtain ⟨hvalid, hfits⟩ := hm.assembled.fitsConfig hmem
  obtain ⟨entry, rest, rfl⟩ := List.exists_cons_of_ne_nil hsome
  obtain ⟨last, hentry⟩ := hcopies entry List.mem_cons_self
  have hrest : ∀ e ∈ rest, ∃ q, Packet.decode e.1 = .ok q ∧ q.key = m.key := by
    intro e he
    obtain ⟨last, hcopy⟩ := hcopies e (List.mem_cons_of_mem entry he)
    exact hm.carries.key_of_frame hcopy
  have hfirst : Packet.decode entry.1 = .ok (m.copy (UInt8.ofNat t) last .broadcast) := by
    rw [hentry]
    exact hm.carries.decode _ _ _
  obtain ⟨hkept, hhanded, houtbox⟩ := hearing_first
    (s.clockAfter (t + 1)).toNat draws hendures.works (hfits.of_alike hendures.router)
    hvalid hm.relays (hendures.router.hasHandler.trans (hm.assembled.listens n hmem))
    hfirst hm.all hm.carries.plain hm.known
    (hendures.router.nodeId ▸ hm.source_ne hn hi) (hm.opens hendures.works.keys _ _ _)
    (h.new _ hnew) hrest
  have hwindow := window_of_alike hm.assembled hmem (hendures.router.trans
    (alike_hearing n' (entry :: rest) (s.clockAfter (t + 1)).toNat draws))
  have hnow : (s.clockAfter (t + 1)).toNat - (s.clockAfter (t + 1)).toNat <
      (hearing n' (entry :: rest) (s.clockAfter (t + 1)).toNat draws).router.tracker.window := by
    rw [hwindow, Nat.sub_self]
    exact hvalid.dedupWindow
  refine ⟨?_, ?_, ?_⟩
  · rw [hserved.router]
    exact DuplicateTracker.Remembers.evict hkept hnow
  · rw [hserved.handed, hhanded, h.handed, if_neg (Nat.succ_ne_zero t)]
    rfl
  · rw [hserved.outbox, houtbox, hendures.router.nodeId]
    have hfurther : UInt8.ofNat t < mesh.maxHops ↔ t + 1 = t + 1 ∧ t + 1 ≤ mesh.maxHops.toNat :=
      (hop_lt_iff rfl hwithin).trans (and_iff_right rfl).symm
    change (if UInt8.ofNat t < mesh.maxHops then
      [(m.copy (UInt8.ofNat t + 1) n.device.router.nodeId .broadcast).frame] else []) = _
    rw [show UInt8.ofNat t + 1 = UInt8.ofNat (t + 1) from (UInt8.ofNat_add t 1).symm]
    exact if_congr hfurther rfl rfl

theorem Unaware.still {after : Draws} (hserved : Served [] now draws after n' n'')
    (h : Unaware m n n') : Unaware m n n'' :=
  ⟨fun time hnew => hserved.not_contains (h.new time hnew), hserved.handed.trans h.handed,
    hserved.outbox⟩

/-! ## The frames in the air -/

theorem finite_of_atDistance (hsource : source < s.nodes.length) (P : Nat → Prop) :
    {i | ∃ d, AtDistance s.Reaches source d i ∧ P d}.Finite :=
  (Set.finite_lt_nat s.nodes.length).subset fun _ ⟨_, hdistance, _⟩ =>
    index_lt_of_atDistance hsource hdistance

/-- Every node that was reached in the last step has one copy to send. -/
theorem Flooded.sum_waiting (h : Flooded s mesh provider key source m text t s')
    (hsource : source < s.nodes.length) :
    ∑ i ∈ Finset.range s'.nodes.length, s'.waiting i =
      {i | ∃ d, AtDistance s.Reaches source d i ∧ d = t ∧ d ≤ mesh.maxHops.toNat}.ncard := by
  classical
  have hwaiting : ∀ i, i < s'.nodes.length → s'.waiting i =
      if ∃ d, AtDistance s.Reaches source d i ∧ d = t ∧ d ≤ mesh.maxHops.toNat then 1 else 0 := by
    intro i hi
    have hn' := List.getElem?_eq_getElem hi
    obtain ⟨n, hn, _⟩ := h.endured.before hn'
    unfold waiting
    rw [hn']
    simp only
    split
    · rename_i hd
      obtain ⟨d, hdistance, rfl, hwithin⟩ := hd
      rw [(h.reached i n _ hn hn' d hdistance (Nat.le_refl _) (by omega)).outbox,
        if_pos ⟨rfl, hwithin⟩]
      rfl
    · rename_i hnone
      refine List.length_eq_zero_iff.mpr (List.eq_nil_iff_forall_not_mem.mpr ?_)
      intro frame hframe
      obtain ⟨hwithin, hdistance, _⟩ := h.wave.only i n _ hn hn' frame hframe
      exact hnone ⟨t, hdistance, rfl, hwithin⟩
  rw [Finset.sum_congr rfl fun i hi => hwaiting i (Finset.mem_range.mp hi),
    ← Finset.card_filter, ← Set.ncard_coe_finset, h.endured.length]
  congr 1
  ext i
  rw [Finset.mem_coe, Finset.mem_filter, Finset.mem_range]
  exact and_iff_right_of_imp fun ⟨_, hdistance, _⟩ => index_lt_of_atDistance hsource hdistance

/-! ## Steps -/

theorem Announced.source_lt (hm : s.Announced mesh provider key source m text) :
    source < s.nodes.length := by
  obtain ⟨n, hn, _⟩ := hm.sender
  exact (List.getElem?_eq_some_iff.mp hn).1

theorem ncard_atDistance_succ (hsource : source < s.nodes.length) (t limit : Nat) :
    {i | ∃ d, AtDistance s.Reaches source d i ∧ d < t + 1 ∧ d ≤ limit}.ncard =
      {i | ∃ d, AtDistance s.Reaches source d i ∧ d < t ∧ d ≤ limit}.ncard +
        {i | ∃ d, AtDistance s.Reaches source d i ∧ d = t ∧ d ≤ limit}.ncard := by
  rw [← Set.ncard_union_eq ?_ (finite_of_atDistance hsource _) (finite_of_atDistance hsource _)]
  · congr 1
    ext i
    constructor
    · rintro ⟨d, hdistance, hpast, hwithin⟩
      rcases Nat.lt_succ_iff_lt_or_eq.mp hpast with hbefore | hnow
      · exact .inl ⟨d, hdistance, hbefore, hwithin⟩
      · exact .inr ⟨d, hdistance, hnow, hwithin⟩
    · rintro (⟨d, hdistance, hbefore, hwithin⟩ | ⟨d, hdistance, hnow, hwithin⟩)
      · exact ⟨d, hdistance, by omega, hwithin⟩
      · exact ⟨d, hdistance, by omega, hwithin⟩
  · refine Set.disjoint_left.mpr ?_
    rintro i ⟨d, hdistance, hbefore, _⟩ ⟨e, hsame, hnow, _⟩
    have := hdistance.unique hsame
    omega

theorem Flooded.plain (h : Flooded s mesh provider key source m text t s')
    (hm : m.Carries provider key text) :
    ∀ n ∈ s'.nodes, ∀ frame ∈ n.device.radio.outbox, IsPlain frame := by
  intro n' hmem frame hframe
  obtain ⟨i, hn'⟩ := List.mem_iff_getElem?.mp hmem
  obtain ⟨n, hn, _⟩ := h.endured.before hn'
  obtain ⟨_, _, rfl⟩ := h.wave.only i n n' hn hn' frame hframe
  exact Packet.HasCopy.isPlain hm ⟨_, _, _, rfl⟩

/-- With each step the message gets one hop further. -/
theorem Flooded.step (hm : s.Announced mesh provider key source m text)
    (hfaithful : provider.IsFaithful)
    (hrecent : (t + 1) * s.setup.stepTime.toNat < mesh.dedupWindow.toNat)
    (hnew : ∀ a ∈ s.nodes,
      a.device.router.tracker.contains m.key (s.clockAfter (t + 1)).toNat = false)
    (h : Flooded s mesh provider key source m text t s') :
    ∃ s'', s'.step = (.ok (), s'') ∧ Flooded s mesh provider key source m text (t + 1) s'' := by
  obtain ⟨s'', draws, hstep, hstepped, hendured⟩ :=
    h.endured.step hfaithful (h.plain hm.carries)
  have hnow := h.endured.now_succ hstepped h.now
  refine ⟨s'', hstep, hendured, hnow, ?_, ?_, ?_⟩
  · rw [hstepped.transmitted, h.sum_waiting hm.source_lt, h.transmitted,
      ncard_atDistance_succ hm.source_lt, Nat.add_assoc]
  · intro i n n'' hn hn'' d hdistance hpast hnear
    obtain ⟨n', hn', hendures, hserved⟩ := h.endured.served hstepped hn hn''
    rcases Nat.le_succ_iff.mp hpast with hbefore | rfl
    · refine Reached.again hm (List.mem_of_getElem? hn) hendures hserved ?_ ?_ hbefore
        (h.reached i n n' hn hn' d hdistance hbefore hnear)
      · intro entry hentry
        obtain ⟨_, _, _, _, _, _, hcopy⟩ := h.wave.of_mem_arriving hentry
        exact hm.carries.key_of_frame hcopy
      · rw [hnow]
        exact Nat.lt_of_le_of_lt (age_clockAfter_le hpast) hrecent
    · have hi : i ≠ source := by
        rintro rfl
        exact Nat.succ_ne_zero t (hdistance.unique (.self i))
      have hunaware := h.unaware i n n' hn hn' fun d hd _ => by
        rw [hd.unique hdistance]
        exact Nat.lt_succ_self t
      refine hunaware.reached hm hn hi hendures (hnow ▸ hserved) (hnew n (List.mem_of_getElem? hn))
        (Nat.le_of_succ_le_succ hnear)
        (h.wave.arriving_ne_nil (Nat.le_of_succ_le_succ hnear) hdistance) ?_
      intro entry hentry
      obtain ⟨_, _, _, _, _, _, hcopy⟩ := h.wave.of_mem_arriving hentry
      exact ⟨_, hcopy⟩
  · intro i n n'' hn hn'' hfar
    obtain ⟨n', hn', hendures, hserved⟩ := h.endured.served hstepped hn hn''
    have hnothing : s'.arriving i = [] := h.wave.arriving_eq_nil fun hwithin d hd => by
      by_cases hnear : d ≤ mesh.maxHops.toNat + 1
      · exact hfar d hd hnear
      · omega
    rw [hnothing] at hserved
    exact (h.unaware i n n' hn hn' fun d hd hnear => Nat.lt_of_succ_lt (hfar d hd hnear)).still
      hserved

/-! ## A message for everybody -/

theorem Sent.flooded (hsent : Sent s s' source m n n')
    (hm : s.Announced mesh provider key source m text) (hn : s.nodes[source]? = some n)
    (hnew : ∀ a ∈ s.nodes, a.device.router.tracker.contains m.key s.now.toNat = false) :
    Flooded s mesh provider key source m text 0 s' := by
  have hmem := List.mem_of_getElem? hn
  refine ⟨hsent.endured hm.assembled hn, hsent.now, ?_, ?_, ?_⟩
  · have hnone : {i | ∃ d, AtDistance s.Reaches source d i ∧ d < 0 ∧ d ≤ mesh.maxHops.toNat} = ∅ :=
      Set.eq_empty_iff_forall_notMem.mpr fun _ ⟨_, _, hbefore, _⟩ => Nat.not_lt_zero _ hbefore
    rw [hnone, Set.ncard_empty, Nat.add_zero]
    exact hsent.transmitted
  · intro i a a' ha ha' d hdistance hpast hnear
    obtain rfl := Nat.le_zero.mp hpast
    obtain rfl := hdistance.eq_of_zero
    rw [hn] at ha
    rw [hsent.node] at ha'
    cases ha
    cases ha'
    obtain ⟨stats, hrouter⟩ := hsent.router
    have hrecorded : n'.device.router.tracker =
        n.device.router.tracker.record m.key s.now.toNat := by
      rw [hrouter]
      unfold DuplicateTracker.observe
      rw [hnew n hmem]
      rfl
    obtain ⟨hvalid, hfits⟩ := hm.assembled.fitsConfig hmem
    refine ⟨?_, ?_, ?_⟩
    · rw [hrecorded]
      exact hfits.remembers hvalid (hnew n hmem)
    · rw [hrouter, if_pos rfl, List.append_nil]
    · have hbroadcast : m.isBroadcast = true := by
        unfold Packet.isBroadcast
        rw [hm.all]
        rfl
      rw [hsent.radio]
      change n.device.radio.outbox ++ _ = _
      rw [hm.assembled.outbox n hmem, if_pos hbroadcast, if_pos ⟨rfl, Nat.zero_le _⟩]
      rfl
  · intro i a a' ha ha' hfar
    have hi : i ≠ source := by
      rintro rfl
      exact Nat.lt_irrefl 0 (hfar 0 (.self i) (Nat.zero_le _))
    rw [hsent.other i hi, ha] at ha'
    cases ha'
    exact ⟨fun _ hbefore => hbefore, rfl, hm.assembled.outbox a (List.mem_of_getElem? ha)⟩

theorem Sent.run_flooded (hsent : Sent s s' source m n n') {steps : Nat}
    (hm : s.Announced mesh provider key source m text) (hfaithful : provider.IsFaithful)
    (hn : s.nodes[source]? = some n)
    (hnew : ∀ a ∈ s.nodes, ∀ t ≤ steps,
      a.device.router.tracker.contains m.key (s.clockAfter t).toNat = false)
    (hwindow : steps * s.setup.stepTime.toNat < mesh.dedupWindow.toNat) :
    ∃ s'', s'.run steps = (.ok (), s'') ∧
      Flooded s mesh provider key source m text steps s'' := by
  refine run_of_step steps
    (hsent.flooded hm hn fun a ha => hnew a ha 0 (Nat.zero_le steps)) ?_
  intro t now ht hflooded
  have hearlier : (t + 1) * s.setup.stepTime.toNat ≤ steps * s.setup.stepTime.toNat :=
    Nat.mul_le_mul_right _ ht
  exact hflooded.step hm hfaithful (Nat.lt_of_le_of_lt hearlier hwindow)
    fun a ha => hnew a ha (t + 1) ht

/-- A message for everybody is handed over once by every node that it can reach within
the hops it has, over a shortest walk, and by no other; each node that still has a hop
left for it sends it once. It is a message that no tracker holds, and that none comes to
hold again because the clock starts over. -/
theorem broadcast_covers {steps : Nat} {topic : Topic} {payload : Bytes}
    (hs : s.Assembled mesh provider key) (hfaithful : provider.IsFaithful)
    (hrelays : mesh.relayEnabled = true) (hn : s.nodes[source]? = some n)
    (hcanonical : topic.isCanonical = true) (hplain : topic.isInclusion = false)
    (hknown : topic.isReserved = false) (hshort : payload.length ≤ 201)
    (hnew : ∀ a ∈ s.nodes, ∀ t ≤ steps, a.device.router.tracker.contains
      (n.device.nodeId, s.nextId) (s.clockAfter t).toNat = false)
    (hlong : mesh.maxHops.toNat + 1 ≤ steps)
    (hwindow : steps * s.setup.stepTime.toNat < mesh.dedupWindow.toNat) :
    ∃ sent final, s.broadcast source topic payload = (.ok s.nextId, sent) ∧
      sent.run steps = (.ok (), final) ∧
      (∀ i d, AtDistance s.Reaches source d i → 1 ≤ d → d ≤ mesh.maxHops.toNat + 1 →
        final.handed i = s.handed i ++ [{
          source := n.device.nodeId
          destination := .broadcast
          topic := topic
          packetId := s.nextId
          hopCount := UInt8.ofNat (d - 1)
          payload := payload }]) ∧
      (∀ i, (∀ d, AtDistance s.Reaches source d i → d = 0 ∨ mesh.maxHops.toNat + 1 < d) →
        final.handed i = s.handed i) ∧
      final.stats.framesTransmitted = s.stats.framesTransmitted +
        {i | ∃ d, AtDistance s.Reaches source d i ∧ d ≤ mesh.maxHops.toNat}.ncard := by
  have hmem := List.mem_of_getElem? hn
  obtain ⟨m, sent, n', hm, hcarries, hbroadcast, hsent⟩ := originate_eq hn (hs.works n hmem)
    (hs.member n hmem) hfaithful .broadcast none hcanonical hplain hshort
  have hannounced : s.Announced mesh provider key source m payload := by
    refine ⟨hs, hrelays, hcarries, ?_, ?_, n, hn, ?_⟩
    · rw [hm]
      exact hknown
    · rw [hm]
      rfl
    · rw [hm]
      exact hs.nodeId hmem
  have hkey : m.key = (n.device.nodeId, s.nextId) := by
    rw [hm, ← hs.nodeId hmem]
    rfl
  obtain ⟨final, hrun, hflooded⟩ := hsent.run_flooded hannounced hfaithful hn
    (by rw [hkey]; exact hnew) hwindow
  refine ⟨sent, final, hbroadcast, hrun, ?_, ?_, ?_⟩
  · intro i d hdistance hfirst hnear
    have hi := index_lt_of_atDistance hannounced.source_lt hdistance
    have ha := List.getElem?_eq_getElem hi
    obtain ⟨a', ha', _⟩ := hflooded.endured.node i _ ha
    have hreached := hflooded.reached i _ a' ha ha' d hdistance (by omega) hnear
    rw [handed_eq ha, handed_eq ha', hreached.handed, if_neg (by omega), hm, ← hs.nodeId hmem]
    rfl
  · intro i hfar
    cases ha : s.nodes[i]? with
    | none =>
      have hnone : final.nodes[i]? = none := by
        rw [List.getElem?_eq_none_iff] at ha ⊢
        rw [hflooded.endured.length]
        exact ha
      rw [handed_eq_nil ha, handed_eq_nil hnone]
    | some a =>
      obtain ⟨a', ha', _⟩ := hflooded.endured.node i a ha
      rw [handed_eq ha, handed_eq ha']
      by_cases hi : i = source
      · subst hi
        rw [(hflooded.reached i a a' ha ha' 0 (.self i) (Nat.zero_le _) (Nat.zero_le _)).handed,
          if_pos rfl, List.append_nil]
      · refine (hflooded.unaware i a a' ha ha' fun d hdistance hnear => ?_).handed
        rcases hfar d hdistance with rfl | hbeyond
        · exact absurd hdistance.eq_of_zero (Ne.symm hi)
        · omega
  · rw [hflooded.transmitted]
    congr 3
    ext i
    constructor
    · rintro ⟨d, hdistance, _, hwithin⟩
      exact ⟨d, hdistance, hwithin⟩
    · rintro ⟨d, hdistance, hwithin⟩
      exact ⟨d, hdistance, by omega, hwithin⟩

/-- The other one of two nodes gets what the first one tells everybody. -/
theorem broadcast_covers_pair :
    ∃ sent final, sampleMesh.broadcast 0 .ping [104, 105] = (.ok 0, sent) ∧
      sent.run 8 = (.ok (), final) ∧
      final.handed 1 = [{
        source := ⟨1⟩
        destination := .broadcast
        topic := .ping
        packetId := 0
        hopCount := 0
        payload := [104, 105] }] := by
  obtain ⟨sent, final, hsent, hrun, hhanded, _, _⟩ := @broadcast_covers sampleMesh
    .initial .software sampleKey 0 ⟨sampleDevice (.standard ⟨1⟩), ⟨0, 0⟩, 0, 0⟩ 8 .ping [104, 105]
    sampleMesh_assembled CryptoProvider.software_isFaithful rfl rfl rfl rfl rfl (by decide)
    (not_contains_clockAfter (forall_sampleMesh fun _ _ _ => rfl) (by decide)) (by decide)
    (by decide)
  exact ⟨sent, final, hsent, hrun, hhanded 1 1 sampleMesh_atDistance (by decide) (by decide)⟩

end Simulation
end Meshwork
