import Meshwork.Proofs.Simulation.Sending
import Meshwork.Proofs.Station.Exchange

/-!
# How a request finds its way

Where no routes are known, a command for one node goes to everybody, one step further
with every step of the simulation. Every node that it reaches learns the way back from
the first copy that it hears, by a neighbour that is one step nearer to the source.
-/

namespace Meshwork
set_option autoImplicit false

namespace Simulation

/-- A command to another node of the mesh, and the key of the answer that it will get. -/
structure Request where
  source : Nat
  target : Nat
  distance : Nat
  message : Packet
  text : Bytes
  answer : MessageKey

/-- The identifiers of all nodes. -/
def ids (s : Simulation) : List NodeId := s.nodes.map fun n => n.device.nodeId

/-- Nobody knows of the command or of its answer, or any way to anybody; what is
recorded and learned on the way there and back lasts. -/
structure Requested (s : Simulation) (mesh : Config) (provider : CryptoProvider) (key : MeshKey)
    (r : Request) : Prop where
  assembled : s.Assembled mesh provider key
  relays : mesh.relayEnabled = true
  symmetric : ∀ i j, s.Reaches i j → s.Reaches j i
  empty : ∀ n ∈ s.nodes, n.device.router.table.routes = []
  room : s.nodes.length ≤ mesh.maxRoutes.toNat
  capacity : 2 ≤ mesh.dedupCapacity.toNat
  lasts : mesh.Lasts (2 * r.distance * s.setup.stepTime.toNat)
  carries : r.message.Carries provider key r.text
  command : r.message.topic = .cmd
  sender : ∃ n, s.nodes[r.source]? = some n ∧ r.message.source = n.device.nodeId
  receiver : ∃ n, s.nodes[r.target]? = some n ∧ r.message.destination = n.device.nodeId ∧
    r.answer.1 = n.device.nodeId
  far : AtDistance s.Reaches r.source r.distance r.target
  apart : 1 ≤ r.distance
  within : r.distance < mesh.maxHops.toNat
  new : ∀ n ∈ s.nodes, ∀ t ≤ 2 * r.distance,
    n.device.router.tracker.contains r.message.key (s.clockAfter t).toNat = false
  unanswered : ∀ n ∈ s.nodes, ∀ t ≤ 2 * r.distance,
    n.device.router.tracker.contains r.answer (s.clockAfter t).toNat = false

/-- The neighbour by which a node at this distance sends back. -/
inductive Way (s : Simulation) (source i : Nat) : Nat → Option NodeId → Prop
  | home : Way s source i 0 none
  | back {d j : Nat} {a : SimNode} (hdistance : AtDistance s.Reaches source d j)
      (hreaches : s.Reaches i j) (ha : s.nodes[j]? = some a) :
      Way s source i (d + 1) (some a.device.nodeId)

/-- A node at this distance has heard the request when it was due, and knows the way back. -/
def Told (s : Simulation) (mesh : Config) (r : Request) (i d : Nat) (n n' : SimNode) : Prop :=
  ∃ way, Way s r.source i d way ∧ n'.device.router.Informed (configOf mesh n.device) s.ids
    r.message.key r.answer (s.clockAfter d).toNat way

/-- Besides, the answer is as new to the node as it was before, and it sends the request on
if that is new to it. -/
structure Heard (s : Simulation) (mesh : Config) (r : Request) (i d t : Nat) (n n' : SimNode) :
    Prop where
  told : Told s mesh r i d n n'
  unanswered : ∀ time, n.device.router.tracker.contains r.answer time = false →
    n'.device.router.tracker.contains r.answer time = false
  handed : n'.device.router.handed = n.device.router.handed
  outbox : n'.device.radio.outbox =
    if d = t then [(r.message.copy (UInt8.ofNat d) n.device.nodeId .broadcast).frame] else []

/-- A node that the request has not reached: what is new to it was new to it before. -/
structure Waiting (r : Request) (n n' : SimNode) : Prop where
  empty : n'.device.router.table.routes = []
  new : ∀ time, n.device.router.tracker.contains r.message.key time = false →
    n'.device.router.tracker.contains r.message.key time = false
  unanswered : ∀ time, n.device.router.tracker.contains r.answer time = false →
    n'.device.router.tracker.contains r.answer time = false
  handed : n'.device.router.handed = n.device.router.handed
  outbox : n'.device.radio.outbox = []

/-- The target has handed the request over, and sends its answer to a neighbour that is
nearer to the source. -/
structure Replied (s : Simulation) (mesh : Config) (provider : CryptoProvider) (key : MeshKey)
    (r : Request) (d : Nat) (q : Packet) (n n' : SimNode) : Prop where
  made : q = { Packet.fresh n.device.nodeId r.message.source .ack [] r.answer.2 with
    payload := q.payload }
  carries : q.Carries provider key (Bytes.bigEndian 4 r.message.packetId.toNat)
  told : Told s mesh r r.target (d + 1) n n'
  handed : n'.device.router.handed = n.device.router.handed ++
    [{ Delivery.ofPacket r.message r.text with hopCount := UInt8.ofNat d }]
  outbox : ∃ j a, AtDistance s.Reaches r.source d j ∧ s.Reaches r.target j ∧
    s.nodes[j]? = some a ∧
    n'.device.radio.outbox = [(q.copy 0 n.device.nodeId a.device.nodeId).frame]

/-- The request has gone for so many steps, no further than to its target. -/
structure Asked (s : Simulation) (mesh : Config) (provider : CryptoProvider) (key : MeshKey)
    (r : Request) (t : Nat) (s' : Simulation) : Prop where
  endured : Endured provider key s s'
  now : s'.now = s.clockAfter t
  drawn : t < r.distance → s'.nextId = r.answer.2
  heard : ∀ (i : Nat) (n n' : SimNode), s.nodes[i]? = some n → s'.nodes[i]? = some n' →
    i ≠ r.target → ∀ d, AtDistance s.Reaches r.source d i → d ≤ t → Heard s mesh r i d t n n'
  waiting : ∀ (i : Nat) (n n' : SimNode), s.nodes[i]? = some n → s'.nodes[i]? = some n' →
    (∀ d, AtDistance s.Reaches r.source d i → t < d) → Waiting r n n'
  replied : ∀ (n n' : SimNode), s.nodes[r.target]? = some n → s'.nodes[r.target]? = some n' →
    ∀ d, d + 1 = r.distance → d + 1 = t → ∃ q, Replied s mesh provider key r d q n n'

variable {s s' s'' : Simulation} {mesh : Config} {provider : CryptoProvider} {key : MeshKey}
variable {r : Request} {i j d t now : Nat} {n n' n'' a : SimNode} {before after : Draws}
variable {entry : Bytes × Int16} {entries : List (Bytes × Int16)}

/-! ## Who is who -/

theorem mem_ids (hn : s.nodes[i]? = some n) : n.device.nodeId ∈ s.ids :=
  List.mem_map_of_mem (List.mem_of_getElem? hn)

theorem length_ids (s : Simulation) : s.ids.length = s.nodes.length := List.length_map _

theorem lasts_configOf {elapsed : Nat} (h : mesh.Lasts elapsed) (d : Device) :
    (configOf mesh d).Lasts elapsed :=
  ⟨h.window, h.timeout⟩

theorem ne_of_atDistance {source e : Nat} (hi : AtDistance s.Reaches source d i)
    (hj : AtDistance s.Reaches source e j) (hne : d ≠ e) : i ≠ j := by
  rintro rfl
  exact hne (hi.unique hj)

namespace Requested

theorem source_ne (h : s.Requested mesh provider key r) (hn : s.nodes[i]? = some n)
    (hi : i ≠ r.source) : r.message.source ≠ n.device.nodeId := by
  obtain ⟨first, hfirst, hsource⟩ := h.sender
  rw [hsource]
  exact h.assembled.nodeId_ne hfirst hn (Ne.symm hi)

theorem destination_ne (h : s.Requested mesh provider key r) (hn : s.nodes[i]? = some n)
    (hi : i ≠ r.target) : r.message.destination ≠ n.device.nodeId := by
  obtain ⟨last, hlast, hdestination, _⟩ := h.receiver
  rw [hdestination]
  exact h.assembled.nodeId_ne hlast hn (Ne.symm hi)

theorem target_ne (h : s.Requested mesh provider key r) : r.target ≠ r.source :=
  ne_of_atDistance h.far (.self r.source) (Nat.ne_of_gt h.apart)

theorem answer_ne (h : s.Requested mesh provider key r) : r.answer ≠ r.message.key := by
  obtain ⟨last, hlast, _, hanswer⟩ := h.receiver
  intro hsame
  exact h.source_ne hlast h.target_ne ((congrArg Prod.fst hsame).symm.trans hanswer)

theorem not_isBroadcast (h : s.Requested mesh provider key r) : r.message.isBroadcast = false := by
  obtain ⟨last, hlast, hdestination, _⟩ := h.receiver
  unfold Packet.isBroadcast
  rw [hdestination]
  exact h.assembled.not_isBroadcast (List.mem_of_getElem? hlast)

theorem lasts_of_le (h : s.Requested mesh provider key r) (hd : d ≤ t)
    (ht : t ≤ 2 * r.distance) :
    mesh.Lasts ((s.clockAfter t).toNat - (s.clockAfter d).toNat) :=
  h.lasts.mono ((age_clockAfter_le hd).trans (Nat.mul_le_mul_right _ ht))

/-- Copies that come from nodes before the target are searching. -/
theorem searches (h : s.Requested mesh provider key r) (ha : s.nodes[j]? = some a)
    (hdistance : AtDistance s.Reaches r.source d j) (hbefore : d < r.distance)
    (hn : s.nodes[i]? = some n) (hi : i ≠ r.source) :
    (r.message.copy (UInt8.ofNat d) a.device.nodeId .broadcast).Searches (configOf mesh n.device)
      s.ids := by
  obtain ⟨first, hfirst, hsource⟩ := h.sender
  have hwithin := h.within
  refine ⟨h.carries.plain, h.not_isBroadcast, rfl, ?_, mem_ids ha, h.source_ne hn hi, ?_, ?_, ?_⟩
  · change r.message.source ∈ s.ids
    rw [hsource]
    exact mem_ids hfirst
  · change r.message.destination ≠ r.message.source
    rw [hsource]
    exact h.destination_ne hfirst h.target_ne.symm
  · exact h.destination_ne ha (ne_of_atDistance hdistance h.far (Nat.ne_of_lt hbefore))
  · have hsame : (UInt8.ofNat d).toNat = d := toNat_ofNat_of_le mesh.maxHops (by omega)
    change (UInt8.ofNat d).toNat + 1 < mesh.maxHops.toNat
    omega

end Requested

/-! ## One node -/

theorem Served.informed {c : Config} {nodes : List NodeId} {message answer : MessageKey}
    {stamp : Nat} {way : Option NodeId} (h : Served entries now before after n n')
    (hlasts : c.Lasts (now - stamp))
    (hinformed : (hearing n entries now before).router.Informed c nodes message answer stamp way) :
    n'.device.router.Informed c nodes message answer stamp way := by
  rw [h.router]
  exact hinformed.sweep hlasts

/-- A node moves no message when all that it hears is idle. -/
theorem Told.idle (hm : s.Requested mesh provider key r)
    (hserved : Served entries (s.clockAfter t).toNat before after n' n'')
    (hpast : d ≤ t) (hearly : t ≤ 2 * r.distance)
    (hidle : ∀ entry ∈ entries,
      Station.IsIdle (configOf mesh n.device) s.ids r.message.key entry)
    (h : Told s mesh r i d n n') :
    Told s mesh r i d n n'' ∧
      (∀ time, n'.device.router.tracker.contains r.answer time = false →
        n''.device.router.tracker.contains r.answer time = false) ∧
      n''.device.router.handed = n'.device.router.handed ∧
      n''.device.radio.outbox = [] ∧ after = before := by
  obtain ⟨way, hway, hinformed⟩ := h
  have hlasts := lasts_configOf (hm.lasts_of_le hpast hearly) n.device
  obtain ⟨hstill, hnew, hstays⟩ := Station.attend_all_informed n'.device.keys
    (s := facing n' entries before) hlasts hidle hinformed
  exact ⟨⟨way, hway, hserved.informed hlasts hstill⟩,
    fun time hunanswered => hserved.not_contains (hnew time hunanswered),
    hserved.handed.trans hstays.handed, hserved.outbox.trans hstays.outbox,
    hserved.draws.trans hstays.draws⟩

/-- A copy of the request from a neighbour at this distance. -/
def IsCall (s : Simulation) (r : Request) (d i : Nat) (entry : Bytes × Int16) : Prop :=
  ∃ j a, s.Reaches j i ∧ AtDistance s.Reaches r.source d j ∧ s.nodes[j]? = some a ∧
    entry.1 = (r.message.copy (UInt8.ofNat d) a.device.nodeId .broadcast).frame

theorem IsCall.idle (hm : s.Requested mesh provider key r) (h : IsCall s r d i entry) (c : Config) :
    Station.IsIdle c s.ids r.message.key entry := by
  obtain ⟨_, _, _, _, _, hframe⟩ := h
  obtain ⟨p, hdecode, hkey⟩ := hm.carries.key_of_frame hframe
  exact ⟨p, hdecode, .inl hkey⟩

theorem Waiting.still (hserved : Served [] now before after n' n'') (h : Waiting r n n') :
    Waiting r n n'' ∧ after = before := by
  refine ⟨⟨?_, ?_, ?_, ?_, ?_⟩, hserved.draws⟩
  · rw [hserved.router]
    unfold Router.sweep RouteTable.expire
    change (n'.device.router.table.routes.filter _) = []
    rw [h.empty]
    rfl
  · exact fun time hnew => hserved.not_contains (h.new time hnew)
  · exact fun time hnew => hserved.not_contains (h.unanswered time hnew)
  · exact hserved.handed.trans h.handed
  · exact hserved.outbox

theorem Waiting.awaits (hm : s.Requested mesh provider key r) (hn : n ∈ s.nodes)
    (hendures : Endures provider key n n') (ht : t ≤ 2 * r.distance) (h : Waiting r n n')
    (entries : List (Bytes × Int16)) (draws : Draws) :
    (facing n' entries draws).Awaits (configOf mesh n.device) r.message.key r.answer
      (s.clockAfter t).toNat :=
  ⟨(hm.assembled.fitsConfig hn).2.of_alike hendures.router, hendures.works.sends,
    hendures.router.hasHandler.trans (hm.assembled.listens n hn), h.empty,
    h.new _ (hm.new n hn t ht), h.unanswered _ (hm.unanswered n hn t ht)⟩

/-- The first copy that a node hears tells it the way back, and it sends the request on. -/
theorem Waiting.hears (hm : s.Requested mesh provider key r) (hn : s.nodes[i]? = some n)
    (hsource : i ≠ r.source) (htarget : i ≠ r.target) (hendures : Endures provider key n n')
    (hserved : Served entries (s.clockAfter (d + 1)).toNat before after n' n'')
    (hbefore : d < r.distance) (hsome : entries ≠ [])
    (hcalls : ∀ entry ∈ entries, IsCall s r d i entry) (h : Waiting r n n') :
    Heard s mesh r i (d + 1) (d + 1) n n'' ∧ after = before := by
  have hmem := List.mem_of_getElem? hn
  obtain ⟨hvalid, _⟩ := hm.assembled.fitsConfig hmem
  have hlasts := lasts_configOf (hm.lasts_of_le (Nat.le_refl (d + 1)) (by omega)) n.device
  obtain ⟨entry, rest, rfl⟩ := List.exists_cons_of_ne_nil hsome
  obtain ⟨j, a, hreaches, hdistance, ha, hframe⟩ := hcalls entry List.mem_cons_self
  obtain ⟨htold, hunanswered, hhanded, hdraws, houtbox⟩ := Station.attend_search n'.device.keys
    (p := r.message.copy (UInt8.ofNat d) a.device.nodeId .broadcast)
    (h.awaits hm hmem hendures (t := d + 1) (by omega) (entry :: rest) before) hvalid hm.relays
    ((length_ids s).trans_le hm.room)
    (by
      rw [hframe]
      exact hm.carries.decode _ _ _)
    (hm.searches ha hdistance hbefore hn hsource) (hm.destination_ne hn htarget) hm.answer_ne
  obtain ⟨hinformed, hnew, hstays⟩ := Station.attend_all_informed n'.device.keys hlasts
    (fun e he => (hcalls e (List.mem_cons_of_mem entry he)).idle hm _) htold
  have hway : Way s r.source i (d + 1) (some a.device.nodeId) :=
    .back hdistance (hm.symmetric j i hreaches) ha
  refine ⟨⟨⟨_, hway, ?_⟩, ?_, ?_, ?_⟩, ?_⟩
  · exact hserved.informed hlasts hinformed
  · exact fun time hbefore =>
      hserved.not_contains (hnew time (hunanswered time (h.unanswered time hbefore)))
  · exact hserved.handed.trans ((hstays.handed.trans hhanded).trans h.handed)
  · rw [hserved.outbox, if_pos rfl, show UInt8.ofNat (d + 1) = UInt8.ofNat d + 1 from
      UInt8.ofNat_add d 1]
    exact hstays.outbox.trans houtbox
  · exact hserved.draws.trans (hstays.draws.trans hdraws)

/-- The target answers the first copy that it hears. -/
theorem Waiting.replies (hm : s.Requested mesh provider key r) (hfaithful : provider.IsFaithful)
    (hn : s.nodes[r.target]? = some n) (hendures : Endures provider key n n')
    (hserved : Served entries (s.clockAfter (d + 1)).toNat before after n' n'')
    (hdue : d + 1 = r.distance) (hdrawn : Station.nextId before = r.answer.2) (hsome : entries ≠ [])
    (hcalls : ∀ entry ∈ entries, IsCall s r d r.target entry) (h : Waiting r n n') :
    ∃ q, Replied s mesh provider key r d q n n'' := by
  have hmem := List.mem_of_getElem? hn
  obtain ⟨hvalid, _⟩ := hm.assembled.fitsConfig hmem
  have hlasts := lasts_configOf (hm.lasts_of_le (Nat.le_refl (d + 1)) (by omega)) n.device
  obtain ⟨entry, rest, rfl⟩ := List.exists_cons_of_ne_nil hsome
  obtain ⟨j, a, hreaches, hdistance, ha, hframe⟩ := hcalls entry List.mem_cons_self
  obtain ⟨last, hlast, hdestination, hanswer⟩ := hm.receiver
  rw [hn] at hlast
  cases hlast
  obtain ⟨first, hfirst, hsource⟩ := hm.sender
  obtain ⟨q, hq, hcarries, htold, hhanded, houtbox⟩ := Station.attend_command
    (p := r.message.copy (UInt8.ofNat d) a.device.nodeId .broadcast)
    (h.awaits hm hmem hendures (t := d + 1) (by omega) (entry :: rest) before) hvalid hm.capacity
    ((length_ids s).trans_le hm.room)
    hendures.works.keys hfaithful
    (by
      rw [hframe]
      exact hm.carries.decode _ _ _)
    (hm.searches ha hdistance (by omega) hn hm.target_ne) hdestination hm.command
    (by
      change r.message.source.isBroadcast = false
      rw [hsource]
      exact hm.assembled.not_isBroadcast (List.mem_of_getElem? hfirst))
    (hm.carries.opens n'.device.keys hendures.works.keys)
    (Prod.ext hanswer hdrawn.symm)
  obtain ⟨hinformed, _, hstays⟩ := Station.attend_all_informed n'.device.keys hlasts
    (fun e he => (hcalls e (List.mem_cons_of_mem entry he)).idle hm _) htold
  have hback := hm.symmetric j r.target hreaches
  refine ⟨q, hq, hcarries, ⟨some a.device.nodeId, .back hdistance hback ha, ?_⟩, ?_,
    j, a, hdistance, hback, ha, ?_⟩
  · exact hserved.informed hlasts hinformed
  · refine hserved.handed.trans ((hstays.handed.trans hhanded).trans ?_)
    change n'.device.router.handed ++ _ = _
    rw [h.handed]
    rfl
  · exact hserved.outbox.trans (hstays.outbox.trans houtbox)

/-! ## All nodes -/

namespace Asked

/-- Copies are only on their way from the nodes that the last step has reached. -/
theorem wave (hm : s.Requested mesh provider key r) (hbefore : t < r.distance)
    (h : Asked s mesh provider key r t s') :
    Wave provider key s s' r.source t True fun n =>
      (r.message.copy (UInt8.ofNat t) n.device.nodeId .broadcast).frame := by
  refine ⟨h.endured, ?_, ?_⟩
  · intro i n n' hn hn' _ hdistance
    have htarget := ne_of_atDistance hdistance hm.far (Nat.ne_of_lt hbefore)
    rw [(h.heard i n n' hn hn' htarget t hdistance (Nat.le_refl t)).outbox, if_pos rfl]
  · intro i n n' hn hn' frame hframe
    by_cases hd : ∃ d, AtDistance s.Reaches r.source d i ∧ d ≤ t
    · obtain ⟨d, hdistance, hpast⟩ := hd
      have htarget := ne_of_atDistance hdistance hm.far (by omega)
      rw [(h.heard i n n' hn hn' htarget d hdistance hpast).outbox] at hframe
      split at hframe
      · rename_i hsame
        subst hsame
        exact ⟨trivial, hdistance, List.mem_singleton.mp hframe⟩
      · cases hframe
    · have hwaiting := h.waiting i n n' hn hn' fun d hdistance =>
        Nat.lt_of_not_le fun hpast => hd ⟨d, hdistance, hpast⟩
      rw [hwaiting.outbox] at hframe
      cases hframe

theorem isCall_of_arriving (hm : s.Requested mesh provider key r) (hbefore : t < r.distance)
    (h : Asked s mesh provider key r t s') (hentry : entry ∈ s'.arriving i) :
    IsCall s r t i entry := by
  obtain ⟨sender, a, _, hreaches, hdistance, ha, hframe⟩ :=
    (h.wave hm hbefore).of_mem_arriving hentry
  exact ⟨sender, a, hreaches, hdistance, ha, hframe⟩

theorem plain (hm : s.Requested mesh provider key r) (hbefore : t < r.distance)
    (h : Asked s mesh provider key r t s') :
    ∀ n ∈ s'.nodes, ∀ frame ∈ n.device.radio.outbox, IsPlain frame := by
  intro n' hmem frame hframe
  obtain ⟨i, hn'⟩ := List.mem_iff_getElem?.mp hmem
  obtain ⟨n, hn, _⟩ := h.endured.before hn'
  obtain ⟨_, _, rfl⟩ := (h.wave hm hbefore).only i n n' hn hn' frame hframe
  exact Packet.HasCopy.isPlain hm.carries ⟨_, _, _, rfl⟩

/-- What a step does to a node that is not the target, and that nobody but the target
draws anything. -/
theorem served (hm : s.Requested mesh provider key r) (hbefore : t < r.distance)
    (h : Asked s mesh provider key r t s') (hn : s.nodes[i]? = some n)
    (hn' : s'.nodes[i]? = some n') (hendures : Endures provider key n n')
    (hserved : Served (s'.arriving i) (s.clockAfter (t + 1)).toNat before after n' n'')
    (hother : i ≠ r.target ∨ t + 1 < r.distance) :
    (∀ d, AtDistance s.Reaches r.source d i → d ≤ t + 1 → Heard s mesh r i d (t + 1) n n'') ∧
      ((∀ d, AtDistance s.Reaches r.source d i → t + 1 < d) → Waiting r n n'') ∧
      after = before := by
  have hcalls : ∀ entry ∈ s'.arriving i, IsCall s r t i entry :=
    fun entry hentry => h.isCall_of_arriving hm hbefore hentry
  by_cases hreached : ∃ d, AtDistance s.Reaches r.source d i ∧ d ≤ t + 1
  · obtain ⟨d, hdistance, hpast⟩ := hreached
    have htarget : i ≠ r.target := by
      rcases hother with hother | hother
      · exact hother
      · exact ne_of_atDistance hdistance hm.far (by omega)
    have hheard : Heard s mesh r i d (t + 1) n n'' ∧ after = before := by
      rcases Nat.le_succ_iff.mp hpast with hearlier | rfl
      · have hold := h.heard i n n' hn hn' htarget d hdistance hearlier
        obtain ⟨htold, hunanswered, hhanded, houtbox, hdraws⟩ := hold.told.idle hm hserved hpast
          (by omega) fun entry hentry => (hcalls entry hentry).idle hm _
        refine ⟨⟨htold, fun time hnew => hunanswered time (hold.unanswered time hnew),
          hhanded.trans hold.handed, ?_⟩, hdraws⟩
        rw [houtbox, if_neg (by omega)]
      · have hsource := ne_of_atDistance hdistance (.self r.source) (Nat.succ_ne_zero t)
        have hwaiting := h.waiting i n n' hn hn' fun d hd => by
          rw [hd.unique hdistance]
          exact Nat.lt_succ_self t
        exact hwaiting.hears hm hn hsource htarget hendures hserved hbefore
          ((h.wave hm hbefore).arriving_ne_nil trivial hdistance) hcalls
    refine ⟨fun e he _ => ?_, fun hfar => ?_, hheard.2⟩
    · rw [he.unique hdistance]
      exact hheard.1
    · exact absurd (hfar d hdistance) (by omega)
  · have hfar : ∀ d, AtDistance s.Reaches r.source d i → t + 1 < d := fun d hd =>
      Nat.lt_of_not_le fun hpast => hreached ⟨d, hd, hpast⟩
    rw [(h.wave hm hbefore).arriving_eq_nil fun _ => hfar] at hserved
    obtain ⟨hwaiting, hdraws⟩ := (h.waiting i n n' hn hn' fun d hd =>
      Nat.lt_of_succ_lt (hfar d hd)).still hserved
    exact ⟨fun d hd hpast => absurd ⟨d, hd, hpast⟩ hreached, fun _ => hwaiting, hdraws⟩

/-- With each step the request gets one hop further. -/
theorem step (hm : s.Requested mesh provider key r) (hfaithful : provider.IsFaithful)
    (hbefore : t < r.distance) (h : Asked s mesh provider key r t s') :
    ∃ s'', s'.step = (.ok (), s'') ∧ Asked s mesh provider key r (t + 1) s'' := by
  obtain ⟨s'', draws, hstep, hstepped, hendured⟩ :=
    h.endured.step hfaithful (h.plain hm hbefore)
  have hnow := h.endured.now_succ hstepped h.now
  have hnode : ∀ (i : Nat) (n n'' : SimNode), s.nodes[i]? = some n → s''.nodes[i]? = some n'' →
      ∃ n', s'.nodes[i]? = some n' ∧ Endures provider key n n' ∧
        Served (s'.arriving i) (s.clockAfter (t + 1)).toNat (draws i) (draws (i + 1))
          n' n'' := by
    intro i n n'' hn hn''
    rw [← hnow]
    exact h.endured.served hstepped hn hn''
  -- the answer gets the first identifier that is drawn: nobody draws before the target
  have hquiet : ∀ i, i < s.nodes.length → i ≠ r.target ∨ t + 1 < r.distance →
      draws (i + 1) = draws i := by
    intro i hi hother
    have hn := List.getElem?_eq_getElem hi
    obtain ⟨n'', hn'', _⟩ := hendured.node i _ hn
    obtain ⟨n', hn', hendures, hserved⟩ := hnode i _ n'' hn hn''
    exact (h.served hm hbefore hn hn' hendures hserved hother).2.2
  refine ⟨s'', hstep, hendured, hnow, ?_, ?_, ?_, ?_⟩
  · intro hearly
    have hlast : s''.draws = s'.draws := by
      rw [hstepped.last, h.endured.length]
      exact hstepped.draws_eq fun j hj => hquiet j hj (.inr hearly)
    unfold nextId
    rw [hlast]
    exact h.drawn hbefore
  · intro i n n'' hn hn'' htarget
    obtain ⟨n', hn', hendures, hserved⟩ := hnode i n n'' hn hn''
    exact (h.served hm hbefore hn hn' hendures hserved (.inl htarget)).1
  · intro i n n'' hn hn'' hfar
    obtain ⟨n', hn', hendures, hserved⟩ := hnode i n n'' hn hn''
    have hother : i ≠ r.target ∨ t + 1 < r.distance := by
      by_cases htarget : i = r.target
      · subst htarget
        exact .inr (hfar r.distance hm.far)
      · exact .inl htarget
    exact (h.served hm hbefore hn hn' hendures hserved hother).2.1 hfar
  · intro n n'' hn hn'' d hdue hd
    obtain rfl : d = t := Nat.succ.inj hd
    obtain ⟨n', hn', hendures, hserved⟩ := hnode r.target n n'' hn hn''
    have hwaiting := h.waiting r.target n n' hn hn' fun e he => by
      rw [he.unique hm.far]
      exact hbefore
    obtain ⟨hlt, _⟩ := List.getElem?_eq_some_iff.mp hn
    have hdrawn : Station.nextId (draws r.target) = r.answer.2 := by
      rw [hstepped.draws_eq fun j hj => hquiet j (Nat.lt_trans hj hlt) (.inl (Nat.ne_of_lt hj))]
      exact h.drawn hbefore
    exact hwaiting.replies hm hfaithful hn hendures hserved hdue hdrawn
      ((h.wave hm hbefore).arriving_ne_nil trivial (hdue ▸ hm.far))
      fun entry hentry => h.isCall_of_arriving hm hbefore hentry

end Asked

/-! ## From the source -/

theorem Sent.asked (hsent : Sent s s' r.source r.message n n')
    (hm : s.Requested mesh provider key r) (hn : s.nodes[r.source]? = some n)
    (hdrawn : s'.nextId = r.answer.2) : Asked s mesh provider key r 0 s' := by
  have hmem := List.mem_of_getElem? hn
  refine ⟨hsent.endured hm.assembled hn, hsent.now, fun _ => hdrawn, ?_, ?_,
    fun _ _ _ _ d _ hd => absurd hd (Nat.succ_ne_zero d)⟩
  · intro i a a' ha ha' _ d hdistance hpast
    obtain rfl := Nat.le_zero.mp hpast
    obtain rfl := hdistance.eq_of_zero
    rw [hn] at ha
    rw [hsent.node] at ha'
    cases ha
    cases ha'
    obtain ⟨stats, hrouter⟩ := hsent.router
    have hnew := hm.new n hmem 0 (Nat.zero_le _)
    have hrecorded : n'.device.router.tracker =
        n.device.router.tracker.record r.message.key s.now.toNat := by
      rw [hrouter]
      unfold DuplicateTracker.observe
      rw [show n.device.router.tracker.contains r.message.key s.now.toNat = false from hnew]
      rfl
    obtain ⟨hvalid, hfits⟩ := hm.assembled.fitsConfig hmem
    obtain ⟨_, hendured, hendures⟩ := (hsent.endured hm.assembled hn).node r.source n hn
    rw [hsent.node] at hendured
    cases hendured
    refine ⟨⟨none, .home, hfits.of_alike hendures.router, ⟨[], List.nil_subset _, ?_⟩,
      fun next hnext => absurd hnext (Option.not_mem_none next)⟩, ?_, ?_, ?_⟩
    · rw [hrecorded]
      exact hfits.remembers hvalid hnew
    · rw [hrecorded]
      exact fun _ hunanswered => DuplicateTracker.not_contains_record hunanswered hm.answer_ne
    · rw [hrouter]
    · have hunknown : n.device.router.nextHop r.message.destination = .broadcast := by
        have hnone : n.device.router.table.lookup r.message.destination = none := by
          rw [RouteTable.lookup_eq_none_iff, hm.empty n hmem]
          exact fun _ he => absurd he List.not_mem_nil
        unfold Router.nextHop
        rw [hnone]
      rw [hsent.radio, hm.not_isBroadcast, hunknown, hm.assembled.nodeId hmem]
      change n.device.radio.outbox ++ _ = _
      rw [hm.assembled.outbox n hmem]
      rfl
  · intro i a a' ha ha' hfar
    have hi : i ≠ r.source := by
      rintro rfl
      exact Nat.lt_irrefl 0 (hfar 0 (.self r.source))
    rw [hsent.other i hi, ha] at ha'
    cases ha'
    have hmem := List.mem_of_getElem? ha
    exact ⟨hm.empty a hmem, fun _ hnew => hnew, fun _ hnew => hnew, rfl,
      hm.assembled.outbox a hmem⟩

theorem Sent.run_asked (hsent : Sent s s' r.source r.message n n')
    (hm : s.Requested mesh provider key r) (hfaithful : provider.IsFaithful)
    (hn : s.nodes[r.source]? = some n) (hdrawn : s'.nextId = r.answer.2) :
    ∃ s'', s'.run r.distance = (.ok (), s'') ∧ Asked s mesh provider key r r.distance s'' :=
  run_of_step r.distance (hsent.asked hm hn hdrawn) fun _ _ hbefore hasked =>
    hasked.step hm hfaithful hbefore

end Simulation
end Meshwork
