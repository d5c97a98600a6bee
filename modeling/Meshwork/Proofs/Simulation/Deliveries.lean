import Meshwork.Proofs.Device.Setup
import Meshwork.Proofs.Simulation.Bookkeeping

/-!
# Every message is counted once

Nodes may join at any time, devices may do what they can, and steps may be given up: the
statistics always agree with the log, in which a message that was sent is delivered once at
most until it is sent again. After a step that comes through they have counted all that the
applications were handed.
-/

namespace Meshwork
set_option autoImplicit false

namespace Simulation

variable {s : Simulation} {done : Nat → Nat} {d : Device}

/-! ## Messages -/

/-- A message is tracked, counted and logged as sent. -/
def announce (s : Simulation) (sender : Nat) (name destination : NodeId) (receiver : Option Nat)
    (id : UInt32) : Simulation :=
  { s.track (name, id) { destination := receiver } with
    stats := { s.stats.modifyNode sender (fun n => { n with messagesSent := n.messagesSent + 1 })
      with messagesSent := s.stats.messagesSent + 1 } : Simulation }.note
        (.messageSent sender id destination)

theorem Audited.announce {sender : Nat} {name destination : NodeId} {receiver : Option Nat}
    (h : s.Audited done) (hname : s.nodeId? sender = some name)
    (hfor : (TrackedMessage.mk receiver false).IsFor s.nodeId? destination) (id : UInt32) :
    (s.announce sender name destination receiver id).Audited done := by
  have hreceived : (s.announce sender name destination receiver id).received = s.received :=
    received_modifyNode s.stats sender _ fun _ => rfl
  refine ⟨h.apart, h.named, ?_, h.answered, ?_, ?_, ?_, ?_, ?_, h.within, h.reports⟩
  · intro other id' destination' hmem
    rcases List.mem_cons.mp hmem with hmem | hmem
    · cases hmem
      exact ⟨name, hname⟩
    · exact h.known other id' destination' hmem
  · intro key message hlookup hopen
    change List.lookup _ (_ :: _) = _ at hlookup
    change ∃ receiver, awaited s.nodeId? key (.messageSent sender id destination :: s.log) = _ ∧ _
    rw [awaited]
    by_cases hsame : key = (name, id)
    · subst hsame
      rw [List.lookup_cons_self] at hlookup
      cases hlookup
      exact ⟨destination, if_pos ⟨hname, rfl⟩, hfor⟩
    · rw [List.lookup_cons, beq_false_of_ne hsame, Association.lookup_filter_ne hsame] at hlookup
      have hother : ¬(s.nodeId? sender = some key.1 ∧ id = key.2) := by
        rintro ⟨hsender, hid⟩
        exact hsame (Prod.ext (Option.some.inj (hsender.symm.trans hname)) hid.symm)
      rw [if_neg hother]
      exact h.watched key message hlookup hopen
  · change s.stats.messagesDelivered = List.countP _ (_ :: _)
    rw [List.countP_cons_of_neg Bool.false_ne_true]
    exact h.counted
  · have hbound := h.bounded
    have hless := (List.filter_sublist (p := fun e : MessageKey × TrackedMessage =>
      e.1 != (name, id)) (l := s.tracked)).countP_le (p := fun e => !e.2.delivered)
    change s.stats.messagesDelivered + List.countP _ (_ :: _) ≤ s.stats.messagesSent + 1
    rw [List.countP_cons_of_pos rfl]
    omega
  · exact (congrArg List.length hreceived).trans h.length
  · intro i hi
    exact (congrArg (·[i]?) hreceived).trans (h.received i hi)

theorem onDevice_there {α : Type} (s : Simulation) (index : Nat)
    (work : Device → Draws → Except MeshError α × Device × Draws) :
    (s.onDevice index work).1 = none ∨ ∃ name, s.nodeId? index = some name := by
  unfold onDevice nodeId?
  cases s.device? index with
  | none => exact .inl rfl
  | some d => exact .inr ⟨d.nodeId, rfl⟩

theorem audited_originate (h : s.Audited s.seenAt) (sender : Nat) (destination : NodeId)
    (receiver : Option Nat) (topic : Topic) (payload : Bytes)
    (hfor : (TrackedMessage.mk receiver false).IsFor s.nodeId? destination) :
    (s.originate sender destination receiver topic payload).2.Audited
      (s.originate sender destination receiver topic payload).2.seenAt := by
  have hsend := s.passes_onDevice sender
    (fun d draws => d.send destination topic payload s.now draws)
    fun d draws => d.grows_operate (.send destination topic payload s.now) draws
  have hthere := s.onDevice_there sender
    (fun d draws => d.send destination topic payload s.now draws)
  unfold originate
  generalize s.onDevice sender _ = sent at hsend hthere ⊢
  rcases sent with ⟨result, left⟩
  rcases result with none | e | id
  · exact h.passes hsend
  · exact h.passes hsend
  · obtain ⟨name, hname⟩ := hthere.resolve_left nofun
    have hnames := hsend.nodeId?
    rw [← hnames] at hname hfor
    simp only
    rw [hname]
    exact (h.passes hsend).announce hname hfor id

/-! ## New nodes -/

theorem nodeId?_ne_of_indexOf?_none {id : NodeId} (h : s.indexOf? id = none) (i : Nat) :
    s.nodeId? i ≠ some id := by
  intro hname
  unfold nodeId? device? at hname
  rw [Option.map_map, Option.map_eq_some_iff] at hname
  obtain ⟨n, hn, hid⟩ := hname
  have hother := List.findIdx?_eq_none_iff.mp h n (List.mem_of_getElem? hn)
  exact ne_of_beq_false hother hid

/-- If no two nodes share a name, a node is found by its name. -/
theorem indexOf?_of_nodeId? {i : Nat} {id : NodeId}
    (hapart : ∀ i j name, s.nodeId? i = some name → s.nodeId? j = some name → i = j)
    (h : s.nodeId? i = some id) : s.indexOf? id = some i := by
  cases hfound : s.indexOf? id with
  | none => exact absurd h (nodeId?_ne_of_indexOf?_none hfound i)
  | some j =>
    obtain ⟨hj, hid, _⟩ := List.findIdx?_eq_some_iff_getElem.mp hfound
    refine congrArg some (hapart j i id ?_ h)
    unfold nodeId? device?
    rw [List.getElem?_eq_getElem hj]
    exact congrArg some (beq_iff_eq.mp hid)

theorem freshDevice_spec {config : Config} {now : UInt64} (h : freshDevice config now = .ok d) :
    config.IsValid ∧ d.config = config ∧ d.router.handed = [] := by
  unfold freshDevice at h
  split at h
  · cases h
  rename_i created hcreate
  have hvalid := Config.isValid_of_validate (Device.validate_of_create hcreate)
  obtain ⟨state, keys, table, hinit⟩ := created.init_cases now
  obtain rfl := Device.eq_of_create hcreate
  generalize Device.init _ now = initialized at h hinit
  rcases initialized with ⟨result, m⟩
  cases result with
  | error e => cases h
  | ok done =>
    simp only at h hinit
    subst hinit
    unfold Device.listen Router.listen Device.listenInclusion at h
    cases h
    exact ⟨hvalid, rfl, rfl⟩

/-- A device has joined at this place. -/
def withNode (s : Simulation) (d : Device) (position : Position) : Simulation :=
  { s.note (.nodeJoined s.nodes.length d.nodeId position) with
    nodes := s.nodes ++ [{ device := d, position := position }]
    stats.perNode := s.stats.perNode ++ [{ nodeId := d.nodeId }] }

section Joining

variable (s) (d) (position : Position)

theorem nodes_withNode_self :
    (s.withNode d position).nodes[s.nodes.length]? = some { device := d, position := position } :=
  List.getElem?_concat_length

theorem nodes_withNode_ne {i : Nat} (hi : i ≠ s.nodes.length) :
    (s.withNode d position).nodes[i]? = s.nodes[i]? := by
  change (s.nodes ++ [_])[i]? = _
  rcases Nat.lt_or_gt_of_ne hi with hlt | hgt
  · exact List.getElem?_append_left hlt
  · rw [List.getElem?_eq_none (Nat.le_of_lt hgt), List.getElem?_eq_none]
    rw [List.length_append]
    exact hgt

theorem nodeId?_withNode_self :
    (s.withNode d position).nodeId? s.nodes.length = some d.nodeId := by
  unfold nodeId? device?
  rw [nodes_withNode_self]
  rfl

theorem nodeId?_withNode_ne {i : Nat} (hi : i ≠ s.nodes.length) :
    (s.withNode d position).nodeId? i = s.nodeId? i := by
  unfold nodeId? device?
  rw [nodes_withNode_ne s d position hi]

theorem handed_withNode (hnothing : d.router.handed = []) (i : Nat) :
    (s.withNode d position).handed i = s.handed i := by
  by_cases hi : i = s.nodes.length
  · subst hi
    rw [handed_eq (nodes_withNode_self s d position), hnothing,
      handed_eq_nil (List.getElem?_eq_none (Nat.le_refl _))]
  · unfold handed device?
    rw [nodes_withNode_ne s d position hi]

theorem seenAt_withNode : (s.withNode d position).seenAt = s.seenAt := by
  funext i
  unfold seenAt
  by_cases hi : i = s.nodes.length
  · subst hi
    rw [nodes_withNode_self, List.getElem?_eq_none (Nat.le_refl _)]
    rfl
  · rw [nodes_withNode_ne s d position hi]

theorem length_withNode : (s.withNode d position).nodes.length = s.nodes.length + 1 :=
  List.length_append

theorem received_withNode : (s.withNode d position).received = s.received ++ [0] :=
  List.map_append

/-- The nodes keep their names. -/
theorem nodeId?_withNode_of_some {i : Nat} {name : NodeId} (h : s.nodeId? i = some name) :
    (s.withNode d position).nodeId? i = some name := by
  rw [nodeId?_withNode_ne s d position, h]
  rintro rfl
  unfold nodeId? device? at h
  rw [List.getElem?_eq_none (Nat.le_refl _)] at h
  cases h

theorem apart_withNode
    (h : ∀ i j name, s.nodeId? i = some name → s.nodeId? j = some name → i = j)
    (hnew : ∀ i, s.nodeId? i ≠ some d.nodeId) {i j : Nat} {name : NodeId}
    (hi : (s.withNode d position).nodeId? i = some name)
    (hj : (s.withNode d position).nodeId? j = some name) : i = j := by
  by_cases hlast : i = s.nodes.length
  · by_cases hlast' : j = s.nodes.length
    · exact hlast.trans hlast'.symm
    · subst hlast
      rw [nodeId?_withNode_self] at hi
      rw [nodeId?_withNode_ne s d position hlast', ← hi] at hj
      exact absurd hj (hnew j)
  · rw [nodeId?_withNode_ne s d position hlast] at hi
    by_cases hlast' : j = s.nodes.length
    · subst hlast'
      rw [nodeId?_withNode_self] at hj
      exact absurd (hi.trans hj.symm) (hnew i)
    · rw [nodeId?_withNode_ne s d position hlast'] at hj
      exact h i j name hi hj

theorem named_withNode (h : ∀ i, s.nodeId? i ≠ some .broadcast) (hvalid : d.config.IsValid)
    (i : Nat) : (s.withNode d position).nodeId? i ≠ some .broadcast := by
  intro hname
  by_cases hlast : i = s.nodes.length
  · subst hlast
    rw [nodeId?_withNode_self] at hname
    have hnamed := hvalid.named
    rw [show d.config.nodeId = .broadcast from Option.some.inj hname] at hnamed
    cases hnamed
  · rw [nodeId?_withNode_ne s d position hlast] at hname
    exact h i hname

end Joining

theorem Audited.withNode (h : s.Audited s.seenAt) (hvalid : d.config.IsValid)
    (hnew : ∀ i, s.nodeId? i ≠ some d.nodeId) (hnothing : d.router.handed = [])
    (position : Position) :
    (s.withNode d position).Audited (s.withNode d position).seenAt := by
  have hmore : ∀ i name, s.nodeId? i = some name →
      (s.withNode d position).nodeId? i = some name :=
    fun i name hname => nodeId?_withNode_of_some s d position hname
  have hjoined : ∀ e ∈ [SimEvent.nodeJoined s.nodes.length d.nodeId position],
      e.isAside = true := List.forall_mem_singleton.mpr rfl
  rw [seenAt_withNode]
  refine ⟨fun i j name hi hj => apart_withNode s d position h.apart hnew hi hj,
    named_withNode s d position h.named hvalid, ?_, ?_, ?_, ?_, h.bounded, ?_, ?_, ?_, ?_⟩
  · intro sender id destination hmem
    obtain ⟨name, hname⟩ := (known_aside hjoined).mpr h.known sender id destination hmem
    exact ⟨name, hmore sender name hname⟩
  · exact (answered_aside hjoined).mpr (h.answered.more_names h.known hmore)
  · intro key message hlookup hopen
    obtain ⟨destination, hawaited, hfor⟩ := h.watched key message hlookup hopen
    refine ⟨destination, ?_, hfor.more_names hmore⟩
    exact (awaited_aside hjoined).trans ((awaited_names h.known hmore).trans hawaited)
  · exact h.counted.trans (countP_aside hjoined).symm
  · rw [received_withNode, length_withNode, List.length_append, h.length]
    rfl
  · intro i hi
    rw [received_withNode]
    by_cases hold : i < s.nodes.length
    · rw [List.getElem?_append_left (h.length.symm ▸ hold)]
      exact h.received i hold
    · -- the new node
      have hlast : i = s.received.length := by
        rw [length_withNode] at hi
        rw [h.length]
        omega
      have hfresh : s.seenAt i = 0 := by
        unfold seenAt
        rw [List.getElem?_eq_none (Nat.le_of_not_lt hold)]
        rfl
      rw [hfresh, hlast]
      exact List.getElem?_concat_length
  · intro i
    rw [handed_withNode s d position hnothing]
    exact h.within i
  · intro i
    rw [handed_withNode s d position hnothing]
    exact (congrArg List.reverse (reportAt_aside hjoined i)).symm ▸ h.reports i

theorem audited_addNode (h : s.Audited s.seenAt) (config : Config) (position : Position) :
    (s.addNode config position).2.Audited (s.addNode config position).2.seenAt := by
  unfold addNode
  split
  · exact h
  rename_i hnone
  split
  · exact h
  rename_i d hfresh
  obtain ⟨hvalid, rfl, hnothing⟩ := freshDevice_spec hfresh
  have hnew := nodeId?_ne_of_indexOf?_none (Option.not_isSome_iff_eq_none.mp hnone)
  exact h.withNode hvalid hnew hnothing position

/-! ## Whole runs -/

theorem audited_perform (h : s.Audited s.seenAt) (act : Act) :
    (act.perform s).Audited (act.perform s).seenAt := by
  cases act with
  | send sender receiver topic payload =>
    change (s.send sender receiver topic payload).2.Audited
      (s.send sender receiver topic payload).2.seenAt
    unfold send
    split
    · exact h
    · rename_i destination hname
      exact audited_originate h sender destination (some receiver) topic payload hname
  | broadcast sender topic payload =>
    exact audited_originate h sender .broadcast none topic payload rfl
  | provisionAll => exact h.passes s.passes_provisionAll
  | step => exact (audited_step h).1
  | operate index deed =>
    exact h.passes (s.passes_onDevice index _ fun d draws => d.grows_deed deed draws)
  | failSend index on =>
    exact h.passes (s.passes_onDevice index _ fun d draws => Device.grows_of_eq rfl rfl)

/-- The states of a simulation in which nodes join whenever they like. -/
inductive Possible (setup : SimSetup) (draws : Draws) : Simulation → Prop where
  | empty : Possible setup draws (empty setup draws)
  | add {s : Simulation} (config : Config) (position : Position) :
      Possible setup draws s → Possible setup draws (s.addNode config position).2
  | act {s : Simulation} (act : Act) :
      Possible setup draws s → Possible setup draws (act.perform s)

theorem audited_of_possible {setup : SimSetup} {draws : Draws} (h : Possible setup draws s) :
    s.Audited s.seenAt := by
  induction h with
  | empty =>
    refine ⟨nofun, nofun, nofun, trivial, nofun, rfl, Nat.le_refl 0, rfl, nofun, ?_, ?_⟩
    · exact fun i => Nat.le_refl 0
    · exact fun i => List.Sublist.refl []
  | add config position _ ih => exact audited_addNode ih config position
  | act act _ ih => exact audited_perform ih act

/-- What the statistics say of deliveries is what happened: no more messages were delivered
than were sent, as many as the log tells, and none twice unless it was sent again meanwhile.
Every delivery in the log is of a message that was sent and was not delivered since, at the
node that it was sent to unless it was for everybody, and it is one of those that the
application there was handed, with its hops. -/
structure CountsOnce (s : Simulation) : Prop where
  bounded : s.stats.messagesDelivered ≤ s.stats.messagesSent
  counted : s.stats.messagesDelivered = s.events.countP SimEvent.isDelivery
  once : ∀ (key : MessageKey) (stretch : List SimEvent), stretch <:+: s.events →
    (∀ e ∈ stretch, e.sends s.nodeId? key = false) → stretch.countP (SimEvent.delivers key) ≤ 1
  origin : ∀ before after index source id hops,
    s.events = before ++ .messageDelivered index source id hops :: after →
    ∃ destination, awaited s.nodeId? (source, id) before.reverse = some destination ∧
      (destination = .broadcast ∨ s.indexOf? destination = some index)
  named : ∀ i, s.nodeId? i ≠ some .broadcast
  handed : ∀ i, (s.events.filterMap (SimEvent.reportAt i)).Sublist
    ((s.handed i).map Delivery.report)

theorem Audited.countsOnce (h : s.Audited done) : s.CountsOnce := by
  refine ⟨Nat.le_trans (Nat.le_add_right ..) h.bounded, ?_, ?_, ?_, h.named, ?_⟩
  · unfold events
    rw [List.countP_reverse]
    exact h.counted
  · rintro key stretch ⟨before, after, hevents⟩ hquiet
    have hlog : s.log = after.reverse ++ (stretch.reverse ++ before.reverse) := by
      rw [← List.reverse_append, ← List.reverse_append, hevents]
      exact (List.reverse_reverse s.log).symm
    have hanswered := h.answered
    rw [hlog] at hanswered
    have hone : stretch.reverse.countP (SimEvent.delivers key) ≤ 1 :=
      countP_delivers_le_one (answered_append _ hanswered)
        fun e he => hquiet e (List.mem_reverse.mp he)
    rw [List.countP_reverse] at hone
    exact hone
  · intro before after index source id hops hevents
    have hlog : s.log =
        after.reverse ++ (.messageDelivered index source id hops :: before.reverse) := by
      rw [← List.reverse_reverse s.log]
      refine (congrArg List.reverse hevents).trans ?_
      rw [List.reverse_append, List.reverse_cons, List.append_assoc]
      rfl
    have hanswered := h.answered
    rw [hlog] at hanswered
    obtain ⟨⟨destination, hawaited, hplace⟩, _⟩ := answered_append _ hanswered
    exact ⟨destination, hawaited, hplace.imp_right (indexOf?_of_nodeId? h.apart)⟩
  · intro i
    unfold events
    rw [List.filterMap_reverse]
    exact (h.reports i).trans ((List.take_sublist _ _).map Delivery.report)

/-- Whatever is done with a simulation, its statistics count every message once. And after a
step that comes through they have counted at every node all that its application was ever
handed, whether or not earlier steps came through. -/
theorem countsOnce_of_possible {setup : SimSetup} {draws : Draws} (h : Possible setup draws s) :
    s.CountsOnce ∧ (s.step.1 = .ok () →
      s.step.2.received = s.step.2.nodes.map (·.device.router.handed.length)) := by
  have haudited := audited_of_possible h
  obtain ⟨hstepped, hall⟩ := audited_step haudited
  refine ⟨haudited.countsOnce, fun hok => List.ext_getElem? fun i => ?_⟩
  rw [List.getElem?_map]
  cases hn : s.step.2.nodes[i]? with
  | none =>
    rw [List.getElem?_eq_none_iff, ← hstepped.length] at hn
    exact List.getElem?_eq_none hn
  | some n =>
    rw [hstepped.received i (List.getElem?_eq_some_iff.mp hn).1, hall hok i, handed_eq hn]
    rfl

theorem possible_samplePair : Possible {} sampleDraws samplePair :=
  .act _ (.act _ (.add _ _ (.add _ _ .empty)))

/-- What one of two devices tells everybody is counted after the next step. -/
theorem countsOnce_of_possible_pair :
    ∃ sent final, samplePair.broadcast 0 .ping [104, 105] = (.ok 0, sent) ∧
      sent.step = (.ok (), final) ∧ final.CountsOnce ∧
      final.received = final.nodes.map (·.device.router.handed.length) := by
  obtain ⟨n, hn⟩ : ∃ n, samplePair.nodes[0]? = some n := ⟨_, rfl⟩
  obtain ⟨hworks, hmember, _⟩ := samplePair_works hn
  have hcanonical : Topic.isCanonical .ping = true := rfl
  have hshort : ([104, 105] : Bytes).length ≤ 201 := by decide
  obtain ⟨m, sent, n', _, hcarries, hbroadcast, hsent⟩ := originate_eq hn hworks hmember
    CryptoProvider.software_isFaithful .broadcast none hcanonical rfl hshort
  obtain ⟨final, draws, hstep, _⟩ := step_eq (samplePair_ready hn hsent hcarries)
    CryptoProvider.software_isFaithful
  have hpossible : Possible {} sampleDraws sent := by
    have hact := possible_samplePair.act (.broadcast 0 .ping [104, 105])
    have hperform : Act.perform samplePair (.broadcast 0 .ping [104, 105]) = sent :=
      congrArg Prod.snd hbroadcast
    rw [← hperform]
    exact hact
  obtain ⟨_, hreceived⟩ := countsOnce_of_possible hpossible
  obtain ⟨hcounts, _⟩ := countsOnce_of_possible (.act .step hpossible)
  have hperform : Act.perform sent .step = final := congrArg Prod.snd hstep
  rw [hperform] at hcounts
  rw [hstep] at hreceived
  exact ⟨sent, final, hbroadcast, hstep, hcounts, hreceived rfl⟩

end Simulation
end Meshwork
