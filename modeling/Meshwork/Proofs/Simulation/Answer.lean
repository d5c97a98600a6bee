import Meshwork.Proofs.Simulation.Request

/-!
# How an answer gets home

The answer to a request goes from each node to the neighbour from which that node heard
of the request first, so it comes one step nearer to the source with every step of the
simulation. At any time one relay carries it; the others overhear it or have lost sight
of it, and what is left of the request does not disturb them.
-/

namespace Meshwork
set_option autoImplicit false

namespace Simulation

/-- A neighbour of a node, one step nearer to the source of a request. -/
structure Nearer (s : Simulation) (r : Request) (f i j : Nat) (a : SimNode) : Prop where
  sender : AtDistance s.Reaches r.source (f + 1) i
  receiver : AtDistance s.Reaches r.source f j
  reaches : s.Reaches i j
  node : s.nodes[j]? = some a

/-- An answer to this request. -/
structure Answers (provider : CryptoProvider) (key : MeshKey) (r : Request) (q : Packet) :
    Prop where
  carries : q.Carries provider key (Bytes.bigEndian 4 r.message.packetId.toNat)
  topic : q.topic = .ack
  source : q.source = r.answer.1
  destination : q.destination = r.message.source
  same : q.key = r.answer

/-- The answer has gone so many steps of its way back. -/
structure Returning (s : Simulation) (mesh : Config) (provider : CryptoProvider) (key : MeshKey)
    (r : Request) (q : Packet) (u : Nat) (s' : Simulation) : Prop where
  endured : Endured provider key s s'
  now : s'.now = s.clockAfter (r.distance + u)
  told : ∀ (i : Nat) (n n' : SimNode), s.nodes[i]? = some n → s'.nodes[i]? = some n' →
    ∀ d, AtDistance s.Reaches r.source d i → d ≤ r.distance → Told s mesh r i d n n'
  unanswered : ∀ (i : Nat) (n n' : SimNode), s.nodes[i]? = some n → s'.nodes[i]? = some n' →
    ∀ d, AtDistance s.Reaches r.source d i → u + d < r.distance →
      ∀ time, n.device.router.tracker.contains r.answer time = false →
        n'.device.router.tracker.contains r.answer time = false
  air : ∀ (i : Nat) (n n' : SimNode), s.nodes[i]? = some n → s'.nodes[i]? = some n' →
    ∀ frame ∈ n'.device.radio.outbox, r.message.HasCopy frame ∨
      ∃ f j a, u + f + 1 = r.distance ∧ Nearer s r f i j a ∧
        frame = (q.copy (UInt8.ofNat u) n.device.nodeId a.device.nodeId).frame
  carrier : ∀ f, u + f + 1 = r.distance → ∃ i n n' j a, s.nodes[i]? = some n ∧
    s'.nodes[i]? = some n' ∧ Nearer s r f i j a ∧
      (q.copy (UInt8.ofNat u) n.device.nodeId a.device.nodeId).frame ∈ n'.device.radio.outbox
  delivered : ∀ (n n' : SimNode), s.nodes[r.target]? = some n → s'.nodes[r.target]? = some n' →
    n'.device.router.handed = n.device.router.handed ++
      [{ Delivery.ofPacket r.message r.text with hopCount := UInt8.ofNat (r.distance - 1) }]
  home : ∀ (n n' : SimNode), s.nodes[r.source]? = some n → s'.nodes[r.source]? = some n' →
    n'.device.router.handed = n.device.router.handed ++
      if u = r.distance then
        [{ Delivery.ofPacket q (Bytes.bigEndian 4 r.message.packetId.toNat) with
          hopCount := UInt8.ofNat (r.distance - 1) }]
      else []

variable {s s' s'' : Simulation} {mesh : Config} {provider : CryptoProvider} {key : MeshKey}
variable {r : Request} {q : Packet} {i j d f t u now : Nat} {n n' n'' a : SimNode}
variable {before after : Draws} {entry : Bytes × Int16} {entries : List (Bytes × Int16)}

/-! ## What a node hears -/

/-- The answer as it comes to a node that is to send it on. -/
def IsTurn (s : Simulation) (r : Request) (q : Packet) (u i : Nat) (n : SimNode)
    (entry : Bytes × Int16) : Prop :=
  ∃ f k b, u + f + 1 = r.distance ∧ AtDistance s.Reaches r.source (f + 1) k ∧
    AtDistance s.Reaches r.source f i ∧ s.nodes[k]? = some b ∧
    entry.1 = (q.copy (UInt8.ofNat u) b.device.nodeId n.device.nodeId).frame

theorem Answers.not_isBroadcast (hq : Answers provider key r q)
    (hm : s.Requested mesh provider key r) : q.isBroadcast = false := by
  obtain ⟨first, hfirst, hsource⟩ := hm.sender
  unfold Packet.isBroadcast
  rw [hq.destination, hsource]
  exact hm.assembled.not_isBroadcast (List.mem_of_getElem? hfirst)

theorem Answers.source_mem (hq : Answers provider key r q)
    (hm : s.Requested mesh provider key r) : q.source ∈ s.ids := by
  obtain ⟨last, hlast, _, hanswer⟩ := hm.receiver
  rw [hq.source, hanswer]
  exact mem_ids hlast

theorem Answers.source_ne (hq : Answers provider key r q) (hm : s.Requested mesh provider key r)
    (hn : s.nodes[i]? = some n) (hi : i ≠ r.target) : q.source ≠ n.device.nodeId := by
  obtain ⟨last, hlast, _, hanswer⟩ := hm.receiver
  rw [hq.source, hanswer]
  exact hm.assembled.nodeId_ne hlast hn (Ne.symm hi)

theorem Answers.other (hq : Answers provider key r q) (hm : s.Requested mesh provider key r) :
    r.message.source ≠ q.source := by
  obtain ⟨last, hlast, _, hanswer⟩ := hm.receiver
  rw [hq.source, hanswer]
  exact hm.source_ne hlast hm.target_ne

/-- Between other nodes the answer passes by. -/
theorem Answers.passesBy (hq : Answers provider key r q) (hm : s.Requested mesh provider key r)
    (hn : s.nodes[i]? = some n) (hi : i ≠ r.source) (hway : Nearer s r f j t a)
    {b : SimNode} (hb : s.nodes[j]? = some b) (hother : t ≠ i) (hop : UInt8) :
    (q.copy hop b.device.nodeId a.device.nodeId).PassesBy n.device.nodeId s.ids
      r.message.source := by
  have hnext := hm.assembled.nodeId_ne hway.node hn hother
  refine ⟨?_, hq.source_mem hm, mem_ids hb, hq.other hm, ?_⟩
  · intro router hown
    have haway : q.destination ≠ router.nodeId := by
      rw [hq.destination, hown]
      exact hm.source_ne hn hi
    exact Station.isOverheard_of_ne hq.carries.plain (hq.not_isBroadcast hm) haway
      (fun hsame => hnext (hsame.trans hown))
      (hm.assembled.not_isBroadcast (List.mem_of_getElem? hway.node))
  · exact hm.source_ne hb (ne_of_atDistance hway.sender (.self r.source) (Nat.succ_ne_zero f))

namespace Returning

/-- A copy of the request, the answer passing by, or the answer for this node. -/
theorem arriving_cases (hm : s.Requested mesh provider key r) (hq : Answers provider key r q)
    (h : Returning s mesh provider key r q u s') (hn : s.nodes[i]? = some n)
    (hentry : entry ∈ s'.arriving i) :
    r.message.HasCopy entry.1 ∨
      (∃ p, Packet.decode entry.1 = .ok p ∧
        p.PassesBy n.device.nodeId s.ids r.message.source) ∨
      IsTurn s r q u i n entry := by
  obtain ⟨k, b', hreaches, hb', hframe⟩ := reaches_of_arriving hentry
  obtain ⟨b, hb, _⟩ := h.endured.before hb'
  rw [h.endured.reaches_iff] at hreaches
  rcases h.air k b b' hb hb' entry.1 hframe with hcopy | ⟨f, t, a, hdue, hway, hcopy⟩
  · exact .inl hcopy
  · refine .inr ?_
    by_cases ht : t = i
    · subst ht
      have hsame := hway.node
      rw [hn] at hsame
      cases hsame
      exact .inr ⟨f, k, b, hdue, hway.sender, hway.receiver, hb, hcopy⟩
    · -- only its neighbours reach the source, and they send the answer to nobody else
      have hi : i ≠ r.source := by
        rintro rfl
        obtain ⟨e, he, hdistance⟩ := (AtDistance.self r.source).exists_of_step
          (hm.symmetric k r.source hreaches)
        have hnear := hdistance.unique hway.sender
        obtain rfl : f = 0 := by omega
        exact ht hway.receiver.eq_of_zero.symm
      refine .inl ⟨_, ?_, hq.passesBy hm hn hi hway hb ht (UInt8.ofNat u)⟩
      rw [hcopy]
      exact hq.carries.decode _ _ _

theorem isIdle_of_arriving (hm : s.Requested mesh provider key r) (hq : Answers provider key r q)
    (h : Returning s mesh provider key r q u s') (hn : s.nodes[i]? = some n)
    (hentry : entry ∈ s'.arriving i) (hturn : ¬IsTurn s r q u i n entry) :
    Station.IsIdle (configOf mesh n.device) s.ids r.message.key entry := by
  rcases h.arriving_cases hm hq hn hentry with ⟨_, _, _, hcopy⟩ | ⟨p, hdecode, hpasses⟩ | hmine
  · obtain ⟨p, hdecode, hkey⟩ := hm.carries.key_of_frame hcopy
    exact ⟨p, hdecode, .inl hkey⟩
  · exact ⟨p, hdecode, .inr hpasses⟩
  · exact absurd hmine hturn

theorem plain (hm : s.Requested mesh provider key r) (hq : Answers provider key r q)
    (h : Returning s mesh provider key r q u s') :
    ∀ n ∈ s'.nodes, ∀ frame ∈ n.device.radio.outbox, IsPlain frame := by
  intro n' hmem frame hframe
  obtain ⟨i, hn'⟩ := List.mem_iff_getElem?.mp hmem
  obtain ⟨n, hn, _⟩ := h.endured.before hn'
  rcases h.air i n n' hn hn' frame hframe with hcopy | ⟨_, _, _, _, _, rfl⟩
  · exact hcopy.isPlain hm.carries
  · exact Packet.HasCopy.isPlain hq.carries ⟨_, _, _, rfl⟩

/-! ## What becomes of a node -/

section Node

variable (hm : s.Requested mesh provider key r) (hq : Answers provider key r q)
variable (h : Returning s mesh provider key r q u s') (hn : s.nodes[i]? = some n)
variable (hn' : s'.nodes[i]? = some n') (hendures : Endures provider key n n')
variable (hserved : Served (s'.arriving i) (s.clockAfter (r.distance + u + 1)).toNat before after
  n' n'')
include hm hq h hn hn' hendures hserved

omit hendures in
/-- When it is not its turn, a node only keeps what it has. -/
theorem idle (hu : u < r.distance) (hdistance : AtDistance s.Reaches r.source d i)
    (hnear : d ≤ r.distance) (hturn : u + d + 1 ≠ r.distance) :
    Told s mesh r i d n n'' ∧
      (∀ time, n'.device.router.tracker.contains r.answer time = false →
        n''.device.router.tracker.contains r.answer time = false) ∧
      n''.device.router.handed = n'.device.router.handed ∧ n''.device.radio.outbox = [] := by
  have hidle : ∀ entry ∈ s'.arriving i,
      Station.IsIdle (configOf mesh n.device) s.ids r.message.key entry := by
    intro entry hentry
    refine h.isIdle_of_arriving hm hq hn hentry ?_
    rintro ⟨f, _, _, hdue, _, hhere, _⟩
    rw [hhere.unique hdistance] at hdue
    exact hturn hdue
  obtain ⟨htold, hnew, hhanded, houtbox, _⟩ :=
    (h.told i n n' hn hn' d hdistance hnear).idle hm hserved (by omega) (by omega) hidle
  exact ⟨htold, hnew, hhanded, houtbox⟩

/-- A relay whose turn it is sends the answer on, if it is the one that gets it. -/
theorem relays (hdistance : AtDistance s.Reaches r.source (f + 1) i)
    (hturn : u + (f + 1) + 1 = r.distance) :
    Told s mesh r i (f + 1) n n'' ∧
      n''.device.router.handed = n'.device.router.handed ∧
      (n''.device.radio.outbox = [] ∧ (∀ entry ∈ s'.arriving i, ¬IsTurn s r q u i n entry) ∨
        ∃ j a, Nearer s r f i j a ∧ n''.device.radio.outbox =
          [(q.copy (UInt8.ofNat (u + 1)) n.device.nodeId a.device.nodeId).frame]) := by
  have hmem := List.mem_of_getElem? hn
  obtain ⟨hvalid, hfits⟩ := hm.assembled.fitsConfig hmem
  have hlasts := lasts_configOf (hm.lasts_of_le (d := f + 1)
    (t := r.distance + u + 1) (by omega) (by omega)) n.device
  have hsource := ne_of_atDistance hdistance (.self r.source) (Nat.succ_ne_zero f)
  have htarget := ne_of_atDistance hdistance hm.far (by omega)
  have hreturn : ∀ entry ∈ s'.arriving i, IsTurn s r q u i n entry →
      Station.IsReturn s.ids r.message.source n.device.nodeId q (UInt8.ofNat u) entry := by
    rintro entry _ ⟨e, k, b, _, hfar, _, hb, hframe⟩
    exact ⟨b.device.nodeId, mem_ids hb,
      hm.source_ne hb (ne_of_atDistance hfar (.self r.source) (Nat.succ_ne_zero e)), hframe⟩
  have hidle : ∀ entry ∈ s'.arriving i,
      ¬Station.IsReturn s.ids r.message.source n.device.nodeId q (UInt8.ofNat u) entry →
        Station.IsIdle (configOf mesh n.device) s.ids r.message.key entry :=
    fun entry hentry hnot => h.isIdle_of_arriving hm hq hn hentry
      fun hmine => hnot (hreturn entry hentry hmine)
  have hwithin : UInt8.ofNat u < mesh.maxHops := by
    have hlimit := hm.within
    rw [UInt8.lt_iff_toNat_lt, toNat_ofNat_of_le mesh.maxHops (by omega)]
    omega
  have hunanswered := h.unanswered i n n' hn hn' (f + 1) hdistance (by omega) _
    (hm.unanswered n hmem (r.distance + u + 1) (by omega))
  obtain ⟨way, hway, hinformed⟩ := h.told i n n' hn hn' (f + 1) hdistance (by omega)
  cases hway with
  | @back _ j a hnear hreaches ha =>
    rw [← hq.same] at hinformed hunanswered
    have hheard := Station.attend_all_return (c := configOf mesh n.device)
      (s := facing n' (s'.arriving i) before) n'.device.keys
      hq.carries (hq.not_isBroadcast hm) hq.destination (hm.source_ne hn hsource)
      (hq.source_mem hm) (hq.source_ne hm hn htarget) (hq.other hm) hwithin hidle hlasts hvalid
      hm.capacity hm.relays hendures.works.sends hinformed hunanswered
    rcases hheard with ⟨hpending, hnone⟩ | hsettled
    · refine ⟨⟨_, .back hnear hreaches ha, ?_⟩, ?_, .inl ⟨?_, ?_⟩⟩
      · exact hq.same ▸ hserved.informed hlasts hpending.informed
      · exact hserved.handed.trans hpending.stays.handed
      · exact hserved.outbox.trans hpending.stays.outbox
      · exact fun entry hentry hmine => hnone entry hentry (hreturn entry hentry hmine)
    · refine ⟨⟨_, .back hnear hreaches ha, ?_⟩, ?_,
        .inr ⟨j, a, ⟨hdistance, hnear, hreaches, ha⟩, ?_⟩⟩
      · exact hq.same ▸ hserved.informed hlasts hsettled.answered.toInformed
      · exact hserved.handed.trans (hsettled.handed.trans (List.append_nil _))
      · rw [hserved.outbox, show UInt8.ofNat (u + 1) = UInt8.ofNat u + 1 from UInt8.ofNat_add u 1]
        exact hsettled.outbox

/-- The source hands over the answer that comes to it. -/
theorem comesHome (hdistance : AtDistance s.Reaches r.source 0 i) (hturn : u + 1 = r.distance) :
    Told s mesh r i 0 n n'' ∧ n''.device.radio.outbox = [] ∧
      (n''.device.router.handed = n'.device.router.handed ∧
          (∀ entry ∈ s'.arriving i, ¬IsTurn s r q u i n entry) ∨
        n''.device.router.handed = n'.device.router.handed ++
          [{ Delivery.ofPacket q (Bytes.bigEndian 4 r.message.packetId.toNat) with
            hopCount := UInt8.ofNat u }]) := by
  obtain rfl := hdistance.eq_of_zero
  have hmem := List.mem_of_getElem? hn
  obtain ⟨hvalid, hfits⟩ := hm.assembled.fitsConfig hmem
  have hlasts := lasts_configOf (hm.lasts_of_le (d := 0) (t := r.distance + u + 1)
    (by omega) (by omega)) n.device
  obtain ⟨first, hfirst, hsource⟩ := hm.sender
  rw [hn] at hfirst
  cases hfirst
  have hcopy : ∀ entry ∈ s'.arriving r.source, IsTurn s r q u r.source n entry →
      Station.IsCopy q (UInt8.ofNat u) entry :=
    fun _ _ ⟨_, _, _, _, _, _, _, hframe⟩ => ⟨_, _, hframe⟩
  have hidle : ∀ entry ∈ s'.arriving r.source, ¬Station.IsCopy q (UInt8.ofNat u) entry →
      Station.IsIdle (configOf mesh n.device) s.ids r.message.key entry :=
    fun entry hentry hnot => h.isIdle_of_arriving hm hq hn hentry
      fun hmine => hnot (hcopy entry hentry hmine)
  have hunanswered := h.unanswered r.source n n' hn hn' 0 hdistance (by omega) _
    (hm.unanswered n hmem (r.distance + u + 1) (by omega))
  obtain ⟨way, hway, hinformed⟩ := h.told r.source n n' hn hn' 0 hdistance (Nat.zero_le _)
  cases hway with
  | home =>
    rw [← hq.same] at hinformed hunanswered
    have hheard := Station.attend_all_home (c := configOf mesh n.device)
      (s := facing n' (s'.arriving r.source) before) n'.device.keys hq.carries hendures.works.keys
      hq.topic (hq.destination.trans hsource) (hq.source_ne hm hn hm.target_ne.symm) hsource hidle
      hlasts hvalid hm.capacity (hendures.router.hasHandler.trans (hm.assembled.listens n hmem))
      hinformed hunanswered
    rcases hheard with ⟨hpending, hnone⟩ | hsettled
    · refine ⟨⟨none, .home, ?_⟩, ?_, .inl ⟨?_, ?_⟩⟩
      · exact hq.same ▸ hserved.informed hlasts hpending.informed
      · exact hserved.outbox.trans hpending.stays.outbox
      · exact hserved.handed.trans hpending.stays.handed
      · exact fun entry hentry hmine => hnone entry hentry (hcopy entry hentry hmine)
    · refine ⟨⟨none, .home, ?_⟩, ?_, .inr ?_⟩
      · exact hq.same ▸ hserved.informed hlasts hsettled.answered.toInformed
      · exact hserved.outbox.trans hsettled.outbox
      · exact hserved.handed.trans hsettled.handed

omit hn' in
/-- Nodes beyond the target send nothing but copies of the request. -/
theorem beyond (hfar : ∀ d, AtDistance s.Reaches r.source d i → r.distance < d) :
    ∀ frame ∈ n''.device.radio.outbox, r.message.HasCopy frame := by
  have htarget : i ≠ r.target := by
    rintro rfl
    exact Nat.lt_irrefl _ (hfar r.distance hm.far)
  have hheard : ∀ entry ∈ s'.arriving i, r.message.HasCopy entry.1 ∨
      ∃ p, Packet.decode entry.1 = .ok p ∧
        p.PassesBy n.device.nodeId s.ids r.message.source := by
    intro entry hentry
    rcases h.arriving_cases hm hq hn hentry with hcopy | hpasses | ⟨f, _, _, hdue, _, hhere, _⟩
    · exact .inl hcopy
    · exact .inr hpasses
    · have := hfar f hhere
      omega
  rw [hserved.outbox]
  exact Station.attend_all_away (s := facing n' (s'.arriving i) before) n'.device.keys hm.carries
    hm.not_isBroadcast (hm.destination_ne hn htarget) hheard
    (hendures.router.nodeId.trans (hm.assembled.nodeId (List.mem_of_getElem? hn)))
    (fun _ hframe => absurd hframe List.not_mem_nil)

theorem told_of_served (hu : u < r.distance) (hdistance : AtDistance s.Reaches r.source d i)
    (hnear : d ≤ r.distance) :
    Told s mesh r i d n n'' := by
  by_cases hturn : u + d + 1 = r.distance
  · cases d with
    | zero => exact (h.comesHome hm hq hn hn' hendures hserved hdistance hturn).1
    | succ f => exact (h.relays hm hq hn hn' hendures hserved hdistance hturn).1
  · exact (h.idle hm hq hn hn' hserved hu hdistance hnear hturn).1

/-- Copies of the request, and the answer one hop on, is all that a node sends. -/
theorem air_of_served (hu : u < r.distance) {frame : Bytes}
    (hframe : frame ∈ n''.device.radio.outbox) :
    r.message.HasCopy frame ∨ ∃ f j a, u + 1 + f + 1 = r.distance ∧ Nearer s r f i j a ∧
      frame = (q.copy (UInt8.ofNat (u + 1)) n.device.nodeId a.device.nodeId).frame := by
  by_cases hinside : ∃ d, AtDistance s.Reaches r.source d i ∧ d ≤ r.distance
  · obtain ⟨d, hdistance, hnear⟩ := hinside
    by_cases hturn : u + d + 1 = r.distance
    · cases d with
      | zero =>
        rw [(h.comesHome hm hq hn hn' hendures hserved hdistance hturn).2.1] at hframe
        cases hframe
      | succ f =>
        rcases (h.relays hm hq hn hn' hendures hserved hdistance hturn).2.2 with
          ⟨hempty, _⟩ | ⟨j, a, hway, houtbox⟩
        · rw [hempty] at hframe
          cases hframe
        · rw [houtbox] at hframe
          exact .inr ⟨f, j, a, by omega, hway, List.mem_singleton.mp hframe⟩
    · rw [(h.idle hm hq hn hn' hserved hu hdistance hnear hturn).2.2.2] at hframe
      cases hframe
  · exact .inl (h.beyond hm hq hn hendures hserved
      (fun d hd => Nat.lt_of_not_le fun hnear => hinside ⟨d, hd, hnear⟩) frame hframe)

end Node

/-! ## Steps -/

/-- With each step the answer comes one hop nearer. -/
theorem step (hm : s.Requested mesh provider key r) (hfaithful : provider.IsFaithful)
    (hq : Answers provider key r q) (hu : u < r.distance)
    (h : Returning s mesh provider key r q u s') :
    ∃ s'', s'.step = (.ok (), s'') ∧ Returning s mesh provider key r q (u + 1) s'' := by
  obtain ⟨s'', draws, hstep, hstepped, hendured⟩ := h.endured.step hfaithful (h.plain hm hq)
  have hnow := h.endured.now_succ hstepped h.now
  have hnode : ∀ (i : Nat) (n n'' : SimNode), s.nodes[i]? = some n → s''.nodes[i]? = some n'' →
      ∃ n', s'.nodes[i]? = some n' ∧ Endures provider key n n' ∧
        Served (s'.arriving i) (s.clockAfter (r.distance + u + 1)).toNat (draws i)
          (draws (i + 1)) n' n'' := by
    intro i n n'' hn hn''
    rw [← hnow]
    exact h.endured.served hstepped hn hn''
  refine ⟨s'', hstep, hendured, hnow, ?_, ?_, ?_, ?_, ?_, ?_⟩
  · intro i n n'' hn hn'' d hdistance hnear
    obtain ⟨n', hn', hendures, hserved⟩ := hnode i n n'' hn hn''
    exact h.told_of_served hm hq hn hn' hendures hserved hu hdistance hnear
  · intro i n n'' hn hn'' d hdistance hearly
    obtain ⟨n', hn', hendures, hserved⟩ := hnode i n n'' hn hn''
    intro time hnew
    exact (h.idle hm hq hn hn' hserved hu hdistance (by omega) (by omega)).2.1 time
      (h.unanswered i n n' hn hn' d hdistance (by omega) time hnew)
  · intro i n n'' hn hn'' frame hframe
    obtain ⟨n', hn', hendures, hserved⟩ := hnode i n n'' hn hn''
    exact h.air_of_served hm hq hn hn' hendures hserved hu hframe
  · intro f hdue
    obtain ⟨k, b, b', i, n, hb, hb', hway, hcarried⟩ := h.carrier (f + 1) (by omega)
    have hn := hway.node
    obtain ⟨n'', hn'', _⟩ := hendured.node i n hn
    obtain ⟨n', hn', hendures, hserved⟩ := hnode i n n'' hn hn''
    obtain ⟨rssi, hentry⟩ :=
      arriving_of_reaches (h.endured.reaches_iff.mpr hway.reaches) hb' hcarried
    rcases (h.relays hm hq hn hn' hendures hserved hway.receiver (by omega)).2.2 with
      ⟨_, hnone⟩ | ⟨j, a, hon, houtbox⟩
    · exact absurd ⟨f + 1, k, b, by omega, hway.sender, hway.receiver, hb, rfl⟩ (hnone _ hentry)
    · exact ⟨i, n, n'', j, a, hn, hn'', hon, houtbox ▸ List.mem_singleton_self _⟩
  · intro n n'' hn hn''
    obtain ⟨n', hn', hendures, hserved⟩ := hnode r.target n n'' hn hn''
    exact (h.idle hm hq hn hn' hserved hu hm.far (Nat.le_refl _) (by omega)).2.2.1.trans
      (h.delivered n n' hn hn')
  · intro n n'' hn hn''
    obtain ⟨n', hn', hendures, hserved⟩ := hnode r.source n n'' hn hn''
    have hbefore := h.home n n' hn hn'
    rw [if_neg (Nat.ne_of_lt hu), List.append_nil] at hbefore
    by_cases hturn : u + 1 = r.distance
    · rw [if_pos hturn]
      obtain ⟨k, b, b', i, a, hb, hb', hway, hcarried⟩ := h.carrier 0 hturn
      obtain rfl := hway.receiver.eq_of_zero
      have hsame := hway.node
      rw [hn] at hsame
      cases hsame
      obtain ⟨rssi, hentry⟩ :=
        arriving_of_reaches (h.endured.reaches_iff.mpr hway.reaches) hb' hcarried
      rcases (h.comesHome hm hq hn hn' hendures hserved (.self r.source) hturn).2.2 with
        ⟨_, hnone⟩ | hhanded
      · exact absurd ⟨0, k, b, hturn, hway.sender, hway.receiver, hb, rfl⟩ (hnone _ hentry)
      · rw [hhanded, hbefore, show r.distance - 1 = u by omega]
    · rw [if_neg hturn, List.append_nil]
      exact (h.idle hm hq hn hn' hserved hu (.self r.source) (Nat.zero_le _) hturn).2.2.1.trans
        hbefore

end Returning

/-! ## There and back -/

theorem Replied.answers (hm : s.Requested mesh provider key r) (hn : s.nodes[r.target]? = some n)
    (h : Replied s mesh provider key r d q n n') : Answers provider key r q := by
  obtain ⟨last, hlast, _, hanswer⟩ := hm.receiver
  rw [hn] at hlast
  cases hlast
  refine ⟨h.carries, ?_, ?_, ?_, ?_⟩
  · rw [h.made]
    rfl
  · rw [h.made, hanswer]
    rfl
  · rw [h.made]
    rfl
  · rw [h.made]
    exact Prod.ext hanswer.symm rfl

/-- What an application is given of an answer. -/
theorem Answers.delivery_eq (hq : Answers provider key r q) (body : Bytes) (hop : UInt8) :
    ({ Delivery.ofPacket q body with hopCount := hop } : Delivery) = {
      source := r.answer.1
      destination := r.message.source
      topic := .ack
      packetId := r.answer.2
      hopCount := hop
      payload := body } := by
  rw [← hq.destination, ← hq.topic, ← hq.same]
  rfl

/-- When the request has reached its target, the answer is about to set out. -/
theorem Asked.returning (hm : s.Requested mesh provider key r)
    (h : Asked s mesh provider key r r.distance s') :
    ∃ q, Answers provider key r q ∧ Returning s mesh provider key r q 0 s' := by
  obtain ⟨d, hdue⟩ := Nat.exists_eq_add_of_le' hm.apart
  obtain ⟨b, hb, _⟩ := hm.receiver
  obtain ⟨b', hb', _⟩ := h.endured.node r.target b hb
  obtain ⟨q, hreplied⟩ := h.replied b b' hb hb' d hdue.symm hdue.symm
  obtain ⟨t, a, hnear, hreaches, ha, houtbox⟩ := hreplied.outbox
  have hway : Nearer s r d r.target t a := ⟨hdue ▸ hm.far, hnear, hreaches, ha⟩
  have htarget : ∀ (n n' : SimNode), s.nodes[r.target]? = some n →
      s'.nodes[r.target]? = some n' → n = b ∧ n' = b' := by
    intro n n' hn hn'
    rw [hb] at hn
    rw [hb'] at hn'
    exact ⟨(Option.some.inj hn).symm, (Option.some.inj hn').symm⟩
  refine ⟨q, hreplied.answers hm hb, h.endured, h.now, ?_, ?_, ?_, ?_, ?_, ?_⟩
  · intro i n n' hn hn' e hdistance hinside
    by_cases hi : i = r.target
    · subst hi
      obtain ⟨rfl, rfl⟩ := htarget n n' hn hn'
      rw [hdistance.unique (hdue ▸ hm.far)]
      exact hreplied.told
    · exact (h.heard i n n' hn hn' hi e hdistance hinside).told
  · intro i n n' hn hn' e hdistance hearly
    have hi := ne_of_atDistance hdistance hm.far (by omega)
    exact (h.heard i n n' hn hn' hi e hdistance (by omega)).unanswered
  · intro i n n' hn hn' frame hframe
    by_cases hi : i = r.target
    · subst hi
      obtain ⟨rfl, rfl⟩ := htarget n n' hn hn'
      rw [houtbox] at hframe
      exact .inr ⟨d, t, a, by omega, hway, List.mem_singleton.mp hframe⟩
    · by_cases hinside : ∃ e, AtDistance s.Reaches r.source e i ∧ e ≤ r.distance
      · obtain ⟨e, hdistance, hinside⟩ := hinside
        rw [(h.heard i n n' hn hn' hi e hdistance hinside).outbox] at hframe
        split at hframe
        · exact .inl ⟨_, _, _, List.mem_singleton.mp hframe⟩
        · cases hframe
      · rw [(h.waiting i n n' hn hn' fun e he =>
          Nat.lt_of_not_le fun hnear => hinside ⟨e, he, hnear⟩).outbox] at hframe
        cases hframe
  · intro f hf
    obtain rfl : f = d := by omega
    exact ⟨r.target, b, b', t, a, hb, hb', hway, houtbox ▸ List.mem_singleton_self _⟩
  · intro n n' hn hn'
    obtain ⟨rfl, rfl⟩ := htarget n n' hn hn'
    rw [hreplied.handed, hdue, Nat.add_sub_cancel]
  · intro n n' hn hn'
    rw [if_neg (by omega), List.append_nil]
    exact (h.heard r.source n n' hn hn' hm.target_ne.symm 0 (.self r.source)
      (Nat.zero_le _)).handed

/-- A command to a node that nobody knows the way to gets there over a shortest walk, and
is acknowledged to the node that sent it: each of the two hands over what it gets once. -/
theorem command_answered {source target distance : Nat} {b : SimNode} {payload : Bytes}
    (hs : s.Assembled mesh provider key) (hfaithful : provider.IsFaithful)
    (hrelays : mesh.relayEnabled = true) (hsymmetric : ∀ i j, s.Reaches i j → s.Reaches j i)
    (hempty : ∀ a ∈ s.nodes, a.device.router.table.routes = [])
    (hroom : s.nodes.length ≤ mesh.maxRoutes.toNat) (hcapacity : 2 ≤ mesh.dedupCapacity.toNat)
    (hn : s.nodes[source]? = some n) (hb : s.nodes[target]? = some b)
    (hdistance : AtDistance s.Reaches source distance target) (hapart : 1 ≤ distance)
    (hwithin : distance < mesh.maxHops.toNat) (hshort : payload.length ≤ 201)
    (hnew : ∀ a ∈ s.nodes, ∀ t ≤ 2 * distance, a.device.router.tracker.contains
      (n.device.nodeId, s.nextId) (s.clockAfter t).toNat = false)
    (hunanswered : ∀ a ∈ s.nodes, ∀ t ≤ 2 * distance, a.device.router.tracker.contains
      (b.device.nodeId, (s.send source target .cmd payload).2.nextId)
      (s.clockAfter t).toNat = false)
    (hwindow : 2 * distance * s.setup.stepTime.toNat < mesh.dedupWindow.toNat)
    (htimeout : 2 * distance * s.setup.stepTime.toNat ≤ mesh.routeTimeout.toNat) :
    ∃ sent final, s.send source target .cmd payload = (.ok s.nextId, sent) ∧
      sent.run (2 * distance) = (.ok (), final) ∧
      final.handed target = s.handed target ++ [{
        source := n.device.nodeId
        destination := b.device.nodeId
        topic := .cmd
        packetId := s.nextId
        hopCount := UInt8.ofNat (distance - 1)
        payload := payload }] ∧
      final.handed source = s.handed source ++ [{
        source := b.device.nodeId
        destination := n.device.nodeId
        topic := .ack
        packetId := sent.nextId
        hopCount := UInt8.ofNat (distance - 1)
        payload := Bytes.bigEndian 4 s.nextId.toNat }] := by
  have hmem := List.mem_of_getElem? hn
  have hcanonical : Topic.cmd.isCanonical = true := rfl
  have hplain : Topic.cmd.isInclusion = false := rfl
  obtain ⟨m, sent, n', hm, hcarries, hsend, hsent⟩ := originate_eq hn (hs.works n hmem)
    (hs.member n hmem) hfaithful b.device.nodeId (some target) hcanonical hplain hshort
  have hsend : s.send source target .cmd payload = (.ok s.nextId, sent) := by
    have hknown : s.nodeId? target = some b.device.nodeId := by
      unfold nodeId? device?
      rw [hb]
      rfl
    unfold send
    rw [hknown]
    exact hsend
  rw [hsend] at hunanswered
  have hkey : m.key = (n.device.nodeId, s.nextId) := by
    rw [hm, ← hs.nodeId hmem]
    rfl
  let r : Request := ⟨source, target, distance, m, payload, (b.device.nodeId, sent.nextId)⟩
  have hrequested : s.Requested mesh provider key r := by
    refine ⟨hs, hrelays, hsymmetric, hempty, hroom, hcapacity, ⟨hwindow, htimeout⟩, hcarries, ?_,
      ⟨n, hn, congrArg Prod.fst hkey⟩, ⟨b, hb, ?_, rfl⟩, hdistance, hapart, hwithin, ?_,
      hunanswered⟩
    · change m.topic = .cmd
      rw [hm]
      rfl
    · change m.destination = b.device.nodeId
      rw [hm]
      rfl
    · change ∀ a ∈ s.nodes, ∀ t ≤ 2 * distance,
        a.device.router.tracker.contains m.key (s.clockAfter t).toNat = false
      rw [hkey]
      exact hnew
  obtain ⟨there, hthere, hasked⟩ := Sent.run_asked (r := r) hsent hrequested hfaithful hn rfl
  obtain ⟨q, hq, hreturning⟩ := hasked.returning hrequested
  obtain ⟨final, hback, hreturned⟩ := run_of_step distance hreturning
    fun _ _ hu hreturning => hreturning.step hrequested hfaithful hq hu
  refine ⟨sent, final, hsend, ?_, ?_, ?_⟩
  · rw [Nat.two_mul]
    exact (run_add hthere distance).trans hback
  · obtain ⟨b', hb', _⟩ := hreturned.endured.node target b hb
    rw [handed_eq hb, handed_eq hb', hreturned.delivered b b' hb hb', show r.message = m from rfl,
      hm, ← hs.nodeId hmem]
    rfl
  · obtain ⟨n'', hn'', _⟩ := hreturned.endured.node source n hn
    have hname : r.message.source = n.device.nodeId := congrArg Prod.fst hkey
    have hid : r.message.packetId = s.nextId := congrArg Prod.snd hkey
    rw [handed_eq hn, handed_eq hn'', hreturned.home n n'' hn hn'', if_pos rfl, hq.delivery_eq,
      hname, hid]

/-- Of two nodes, one tells the other to do something, and learns that it was told. -/
theorem command_answered_pair :
    ∃ sent final, sampleMesh.send 0 1 .cmd [111, 110] = (.ok 0, sent) ∧
      sent.run 2 = (.ok (), final) ∧
      final.handed 1 = [{
        source := ⟨1⟩
        destination := ⟨2⟩
        topic := .cmd
        packetId := 0
        hopCount := 0
        payload := [111, 110] }] ∧
      final.handed 0 = [{
        source := ⟨2⟩
        destination := ⟨1⟩
        topic := .ack
        packetId := sent.nextId
        hopCount := 0
        payload := [0, 0, 0, 0] }] :=
  @command_answered sampleMesh .initial .software sampleKey
    ⟨sampleDevice (.standard ⟨1⟩), ⟨0, 0⟩, 0, 0⟩ 0 1 1
    ⟨sampleDevice (.standard ⟨2⟩), ⟨100, 0⟩, 0, 0⟩ [111, 110] sampleMesh_assembled
    CryptoProvider.software_isFaithful rfl (fun _ _ => sampleMesh_symmetric)
    (forall_sampleMesh fun _ _ _ => rfl) (by decide) (by decide) rfl rfl sampleMesh_atDistance
    (by decide) (by decide) (by decide)
    (not_contains_clockAfter (forall_sampleMesh fun _ _ _ => rfl) (by decide))
    (not_contains_clockAfter (forall_sampleMesh fun _ _ _ => rfl) (by decide)) (by decide)
    (by decide)

end Simulation
end Meshwork
