import Mathlib.Logic.Function.Basic
import Meshwork.Proofs.Device.Handing
import Meshwork.Proofs.Simulation.Balance
import Meshwork.Proofs.Simulation.Log

/-!
# The accounts of a simulation

The statistics remember of every node how many deliveries they have seen, and of every
message whether it has been delivered since it was sent. Only the accounts at the end of a
step touch either, so a step that is given up half-way leaves to the next one what its
applications were handed.
-/

namespace Meshwork
set_option autoImplicit false

/-- What is reported of a delivery: the message and its hops. -/
def Delivery.report (d : Delivery) : MessageKey × UInt8 := ((d.source, d.packetId), d.hopCount)

/-- A message that is tracked for a node or for everybody was sent to that node or to
everybody. -/
def TrackedMessage.IsFor (names : Nat → Option NodeId) (message : TrackedMessage)
    (destination : NodeId) : Prop :=
  match message.destination with
  | none => destination = .broadcast
  | some index => names index = some destination

theorem TrackedMessage.IsFor.more_names {names names' : Nat → Option NodeId}
    {message : TrackedMessage} {destination : NodeId} (h : message.IsFor names destination)
    (hmore : ∀ i name, names i = some name → names' i = some name) :
    message.IsFor names' destination := by
  unfold IsFor at h ⊢
  cases hreceiver : message.destination with
  | none =>
    rw [hreceiver] at h
    exact h
  | some index =>
    rw [hreceiver] at h
    exact hmore index destination h

namespace Simulation

/-- The deliveries at every node that the statistics have counted. -/
def received (s : Simulation) : List Nat := s.stats.perNode.map (·.messagesReceived)

/-- The deliveries at a node that it is noted to have been counted. -/
def seenAt (s : Simulation) (index : Nat) : Nat := ((s.nodes[index]?).map (·.seen)).getD 0

/-- The statistics agree with the log and with what the applications were handed, of which
they have counted this many deliveries at every node. -/
structure Audited (s : Simulation) (done : Nat → Nat) : Prop where
  apart : ∀ i j name, s.nodeId? i = some name → s.nodeId? j = some name → i = j
  named : ∀ i, s.nodeId? i ≠ some .broadcast
  known : Known s.nodeId? s.log
  answered : Answered s.nodeId? s.log
  watched : ∀ key message, s.tracked.lookup key = some message → message.delivered = false →
    ∃ destination, awaited s.nodeId? key s.log = some destination ∧
      message.IsFor s.nodeId? destination
  counted : s.stats.messagesDelivered = s.log.countP SimEvent.isDelivery
  bounded : s.stats.messagesDelivered + s.tracked.countP (fun e => !e.2.delivered) ≤
    s.stats.messagesSent
  length : s.received.length = s.nodes.length
  received : ∀ i < s.nodes.length, s.received[i]? = some (done i)
  within : ∀ i, done i ≤ (s.handed i).length
  reports : ∀ i, ((s.log.filterMap (SimEvent.reportAt i)).reverse).Sublist
    (((s.handed i).take (done i)).map Delivery.report)

variable {s s' s'' : Simulation} {done : Nat → Nat} {index : Nat} {n : SimNode}

/-! ## What the accounts do not notice -/

/-- Devices may have gone on and aside events may have been logged. -/
structure Goes (s s' : Simulation) : Prop where
  length : s'.nodes.length = s.nodes.length
  device : ∀ (i : Nat) (n : SimNode), s.nodes[i]? = some n →
    ∃ n', s'.nodes[i]? = some n' ∧ n.device.Grows n'.device
  tracked : s'.tracked = s.tracked
  received : s'.received = s.received
  sent : s'.stats.messagesSent = s.stats.messagesSent
  delivered : s'.stats.messagesDelivered = s.stats.messagesDelivered
  log : ∃ noise, s'.log = noise ++ s.log ∧ ∀ e ∈ noise, e.isAside = true

/-- Nor have any deliveries been seen meanwhile. -/
structure Passes (s s' : Simulation) : Prop extends Goes s s' where
  seen : ∀ i, s'.seenAt i = s.seenAt i

theorem Goes.refl (s : Simulation) : s.Goes s :=
  ⟨rfl, fun _ n hn => ⟨n, hn, .refl _⟩, rfl, rfl, rfl, rfl, [], rfl, nofun⟩

theorem Goes.trans (h : s.Goes s') (h' : s'.Goes s'') : s.Goes s'' := by
  obtain ⟨noise, hlog, hnoise⟩ := h.log
  obtain ⟨later, hlog', hlater⟩ := h'.log
  refine ⟨h'.length.trans h.length, fun i n hn => ?_, h'.tracked.trans h.tracked,
    h'.received.trans h.received, h'.sent.trans h.sent, h'.delivered.trans h.delivered,
    later ++ noise, ?_, fun e he => ?_⟩
  · obtain ⟨m, hm, hgrows⟩ := h.device i n hn
    obtain ⟨m', hm', hgrows'⟩ := h'.device i m hm
    exact ⟨m', hm', hgrows.trans hgrows'⟩
  · rw [hlog', hlog, List.append_assoc]
  · exact (List.mem_append.mp he).elim (hlater e) (hnoise e)

theorem Goes.nodeId? (h : s.Goes s') : s'.nodeId? = s.nodeId? := by
  funext i
  unfold Simulation.nodeId? device?
  cases hn : s.nodes[i]? with
  | none =>
    have hnone : s'.nodes[i]? = none := by
      rw [List.getElem?_eq_none_iff] at hn ⊢
      rw [h.length]
      exact hn
    rw [hnone]
  | some n =>
    obtain ⟨n', hn', hgrows⟩ := h.device i n hn
    rw [hn']
    exact congrArg (fun c : Config => some c.nodeId) hgrows.config

theorem Goes.handed (h : s.Goes s') (i : Nat) : s.handed i <+: s'.handed i := by
  cases hn : s.nodes[i]? with
  | none =>
    rw [handed_eq_nil hn]
    exact List.nil_prefix
  | some n =>
    obtain ⟨n', hn', hgrows⟩ := h.device i n hn
    rw [handed_eq hn, handed_eq hn']
    exact hgrows.handed

theorem Audited.goes (h : s.Audited done) (hgoes : s.Goes s') : s'.Audited done := by
  obtain ⟨noise, hlog, hnoise⟩ := hgoes.log
  have hnames := hgoes.nodeId?
  refine ⟨?_, ?_, ?_, ?_, ?_, ?_, ?_, ?_, ?_, ?_, ?_⟩
  · rw [hnames]
    exact h.apart
  · rw [hnames]
    exact h.named
  · rw [hnames, hlog, known_aside hnoise]
    exact h.known
  · rw [hnames, hlog, answered_aside hnoise]
    exact h.answered
  · intro key message hlookup hopen
    rw [hgoes.tracked] at hlookup
    rw [hnames, hlog, awaited_aside hnoise]
    exact h.watched key message hlookup hopen
  · rw [hgoes.delivered, hlog, countP_aside hnoise]
    exact h.counted
  · rw [hgoes.delivered, hgoes.tracked, hgoes.sent]
    exact h.bounded
  · rw [hgoes.received, hgoes.length]
    exact h.length
  · intro i hi
    rw [hgoes.received]
    exact h.received i (hgoes.length ▸ hi)
  · intro i
    exact Nat.le_trans (h.within i) (hgoes.handed i).length_le
  · intro i
    obtain ⟨more, hmore⟩ := hgoes.handed i
    rw [hlog, reportAt_aside hnoise, ← hmore, List.take_append_of_le_length (h.within i)]
    exact h.reports i

theorem Audited.passes (h : s.Audited s.seenAt) (hpasses : s.Passes s') :
    s'.Audited s'.seenAt := by
  rw [show s'.seenAt = s.seenAt from funext hpasses.seen]
  exact h.goes hpasses.toGoes

namespace Passes

theorem refl (s : Simulation) : s.Passes s := ⟨.refl s, fun _ => rfl⟩

theorem trans (h : s.Passes s') (h' : s'.Passes s'') : s.Passes s'' :=
  ⟨h.toGoes.trans h'.toGoes, fun i => (h'.seen i).trans (h.seen i)⟩

theorem foldl {α : Type} {work : Simulation → α → Simulation}
    (hwork : ∀ (s : Simulation) (a : α), s.Passes (work s a)) (s : Simulation) (l : List α) :
    s.Passes (l.foldl work s) :=
  List.foldlRecOn l work (.refl s) fun s' h a _ => h.trans (hwork s' a)

end Passes

theorem passes_of_nodes (hnodes : s'.nodes = s.nodes) (htracked : s'.tracked = s.tracked)
    (hreceived : s'.received = s.received)
    (hsent : s'.stats.messagesSent = s.stats.messagesSent)
    (hdelivered : s'.stats.messagesDelivered = s.stats.messagesDelivered)
    (noise : List SimEvent) (hlog : s'.log = noise ++ s.log)
    (hnoise : ∀ e ∈ noise, e.isAside = true) : s.Passes s' := by
  refine ⟨⟨congrArg List.length hnodes, ?_, htracked, hreceived, hsent, hdelivered,
    noise, hlog, hnoise⟩, ?_⟩
  · intro i n hn
    exact ⟨n, hnodes ▸ hn, .refl _⟩
  · intro i
    unfold seenAt
    rw [hnodes]

theorem passes_setDevice {d : Device} (hn : s.nodes[index]? = some n)
    (hgrows : n.device.Grows d) : s.Passes (s.setDevice index d) := by
  refine ⟨⟨length_setDevice .., ?_, rfl, rfl, rfl, rfl, [], rfl, nofun⟩, ?_⟩
  · intro i m hm
    by_cases hi : index = i
    · subst hi
      cases hn.symm.trans hm
      exact ⟨_, nodes_setDevice_self hn d, hgrows⟩
    · exact ⟨m, (nodes_setDevice_ne s hi d).trans hm, .refl _⟩
  · intro i
    unfold seenAt
    rw [nodes_setDevice, Option.map_map]
    congr 2
    funext m
    simp only [Function.comp_apply]
    split <;> rfl

theorem passes_onDevice {α : Type} (s : Simulation) (index : Nat)
    (work : Device → Draws → Except MeshError α × Device × Draws)
    (hwork : ∀ (d : Device) (draws : Draws), d.Grows (work d draws).2.1) :
    s.Passes (s.onDevice index work).2 := by
  unfold onDevice device?
  cases hn : s.nodes[index]? with
  | none => exact .refl s
  | some n =>
    have hset := passes_setDevice hn (hwork n.device s.draws)
    exact hset.trans (passes_of_nodes rfl rfl rfl rfl rfl [] rfl nofun)

/-! ## The air -/

theorem passes_hear (sender : Nat) (place : Position) (frame : Bytes) (s : Simulation)
    (receiver : Nat) : s.Passes (hear sender place frame s receiver) := by
  unfold hear
  split
  · exact .refl s
  split
  · exact .refl s
  · rename_i n hn
    simp only
    split
    · have hset := passes_setDevice hn (Device.grows_of_eq (m := { n.device with
        radio := n.device.radio.inject frame
          (Medium.reported (s.setup.medium.rssi place n.position)) }) rfl rfl)
      exact hset.trans (passes_of_nodes rfl rfl rfl rfl rfl [] rfl nofun)
    · exact passes_of_nodes rfl rfl rfl rfl rfl [.frameLost sender receiver _] rfl
        (List.forall_mem_singleton.mpr rfl)

theorem passes_transmitFrame (sender : Nat) (place : Position) (s : Simulation) (frame : Bytes) :
    s.Passes (transmitFrame sender place s frame) := by
  have hcounted : s.Passes ({ s with
      stats.framesTransmitted := s.stats.framesTransmitted + 1 : Simulation }.note
        (.frameTransmitted sender frame.length)) :=
    passes_of_nodes rfl rfl rfl rfl rfl [.frameTransmitted sender frame.length] rfl
      (List.forall_mem_singleton.mpr rfl)
  exact hcounted.trans (.foldl (passes_hear sender place frame) _ _)

theorem passes_transmitFrom (s : Simulation) (sender : Nat) :
    s.Passes (s.transmitFrom sender) := by
  unfold transmitFrom
  split
  · exact .refl s
  · rename_i n hn
    have hset := passes_setDevice hn (Device.grows_of_eq (m := n.emptied.device) rfl rfl)
    exact hset.trans (.foldl (passes_transmitFrame sender n.position) _ _)

theorem passes_propagate (s : Simulation) : s.Passes s.propagate :=
  .foldl passes_transmitFrom s _

/-! ## The devices -/

theorem grows_drainInbox (fuel : Nat) (d : Device) (now : UInt64) (draws : Draws) :
    d.Grows (drainInbox fuel d now draws).2.1 :=
  chain_drainInbox .refl .trans (fun d draws => d.grows_operate (.poll now) draws) fuel d draws

theorem passes_pollAll (s : Simulation) (indices : List Nat) :
    s.Passes (s.pollAll indices).2 :=
  chain_pollAll .refl .trans (fun s index => s.passes_onDevice index _
    fun d draws => grows_drainInbox _ d s.now draws) s indices

theorem passes_provisionAll (s : Simulation) : s.Passes s.provisionAll.2 := by
  refine chain_provisionAll .refl .trans (fun s index n key hn => ?_) (fun s => ?_)
    (fun s n hn => ?_) s
  · exact passes_setDevice hn (n.device.grows_operate (.provision key) s.draws)
  · exact s.passes_onDevice 0 _ fun d draws => d.grows_operate .enableInclusion draws
  · exact passes_setDevice hn (n.device.grows_operate .disableInclusion s.draws)

/-! ## The accounts -/

/-- One more delivery is counted at this node. -/
def countAt (s : Simulation) (index : Nat) : Simulation :=
  { s with stats := s.stats.modifyNode index fun n =>
    { n with messagesReceived := n.messagesReceived + 1 } }

/-- The message is counted and logged as delivered. -/
def credit (s : Simulation) (index : Nat) (d : Delivery) (message : TrackedMessage) : Simulation :=
  { s.track (d.source, d.packetId) { message with delivered := true } with
    stats.messagesDelivered := s.stats.messagesDelivered + 1 : Simulation }.note
      (.messageDelivered index d.source d.packetId d.hopCount)

theorem accountDelivery_cases (index : Nat) (s : Simulation) (hops : Float) (d : Delivery) :
    (accountDelivery index (s, hops) d).1 = s.countAt index ∨
      ∃ message, s.tracked.lookup (d.source, d.packetId) = some message ∧
        message.delivered = false ∧
        (message.destination = none ∨ message.destination = some index) ∧
        (accountDelivery index (s, hops) d).1 = (s.countAt index).credit index d message := by
  unfold accountDelivery
  simp only
  split
  · exact .inl rfl
  · rename_i message hlookup
    split
    · rename_i hawaited
      unfold isAwaited at hawaited
      rw [Bool.and_eq_true, Bool.or_eq_true, Bool.not_eq_true', Option.isNone_iff_eq_none,
        beq_iff_eq] at hawaited
      exact .inr ⟨message, hlookup, hawaited.1, hawaited.2, rfl⟩
    · exact .inl rfl

theorem received_countAt (s : Simulation) (index : Nat) :
    (s.countAt index).received = s.received.modify index (· + 1) := by
  refine List.ext_getElem? fun i => ?_
  unfold received countAt SimStats.modifyNode
  simp only [List.getElem?_map, List.getElem?_modify, Option.map_eq_map, Option.map_map]
  congr 1
  funext p
  simp only [Function.comp_apply]
  split <;> rfl

theorem Audited.countAt {d : Delivery} (h : s.Audited done)
    (hd : (s.handed index)[done index]? = some d) :
    (s.countAt index).Audited (Function.update done index (done index + 1)) := by
  refine ⟨h.apart, h.named, h.known, h.answered, h.watched, h.counted, h.bounded, ?_, ?_, ?_,
    ?_⟩
  · rw [received_countAt, List.length_modify]
    exact h.length
  · intro i hi
    rw [received_countAt, List.getElem?_modify, h.received i hi]
    by_cases hsame : i = index
    · subst hsame
      rw [Function.update_self, Option.map_eq_map, Option.map_some, if_pos rfl]
    · rw [Function.update_of_ne hsame, Option.map_eq_map, Option.map_some,
        if_neg (Ne.symm hsame)]
  · intro i
    by_cases hsame : i = index
    · subst hsame
      rw [Function.update_self]
      exact (List.getElem?_eq_some_iff.mp hd).1
    · rw [Function.update_of_ne hsame]
      exact h.within i
  · intro i
    by_cases hsame : i = index
    · subst hsame
      rw [Function.update_self]
      exact (h.reports i).trans
        ((List.take_sublist_take_left (Nat.le_succ _)).map Delivery.report)
    · rw [Function.update_of_ne hsame]
      exact h.reports i

/-- The delivery that was counted last is of a message that is awaited here. -/
theorem Audited.credit {d : Delivery} {message : TrackedMessage} {count : Nat}
    (h : s.Audited done) (hlookup : s.tracked.lookup (d.source, d.packetId) = some message)
    (hopen : message.delivered = false)
    (hhere : message.destination = none ∨ message.destination = some index)
    (hcount : done index = count + 1) (hd : (s.handed index)[count]? = some d)
    (hreports : ((s.log.filterMap (SimEvent.reportAt index)).reverse).Sublist
      (((s.handed index).take count).map Delivery.report)) :
    (s.credit index d message).Audited done := by
  obtain ⟨destination, hawaited, hfor⟩ := h.watched _ message hlookup hopen
  refine ⟨h.apart, h.named, ?_, ⟨⟨destination, hawaited, ?_⟩, h.answered⟩, ?_, ?_, ?_, h.length,
    h.received, h.within, ?_⟩
  · intro sender id receiver hmem
    rcases List.mem_cons.mp hmem with hmem | hmem
    · cases hmem
    · exact h.known sender id receiver hmem
  · unfold TrackedMessage.IsFor at hfor
    rcases hhere with hall | hone
    · rw [hall] at hfor
      exact .inl hfor
    · rw [hone] at hfor
      exact .inr hfor
  · intro key other hother hstill
    by_cases hsame : key = (d.source, d.packetId)
    · -- this message is not awaited any more
      subst hsame
      change List.lookup _ (_ :: _) = _ at hother
      rw [List.lookup_cons_self] at hother
      cases hother
      cases hstill
    · have hbefore : s.tracked.lookup key = some other := by
        change List.lookup _ (_ :: _) = _ at hother
        rw [List.lookup_cons, beq_false_of_ne hsame, Association.lookup_filter_ne hsame] at hother
        exact hother
      obtain ⟨receiver, hreceiver, hisFor⟩ := h.watched key other hbefore hstill
      refine ⟨receiver, ?_, hisFor⟩
      change awaited _ key (.messageDelivered _ _ _ _ :: s.log) = _
      rw [awaited, if_neg (Ne.symm hsame)]
      exact hreceiver
  · change s.stats.messagesDelivered + 1 = List.countP _ (_ :: _)
    rw [List.countP_cons_of_pos rfl, h.counted]
    rfl
  · have hless : (s.tracked.filter (·.1 != (d.source, d.packetId))).countP
        (fun e => !e.2.delivered) + 1 ≤ s.tracked.countP (fun e => !e.2.delivered) :=
      Association.countP_filter_of_lookup hlookup (by rw [hopen]; rfl)
    have hbound := h.bounded
    change s.stats.messagesDelivered + 1 + List.countP _ (_ :: _) ≤ s.stats.messagesSent
    rw [List.countP_cons_of_neg (by simp)]
    omega
  · intro i
    by_cases hsame : index = i
    · subst hsame
      have hlog : (s.credit index d message).log.filterMap (SimEvent.reportAt index) =
          d.report :: s.log.filterMap (SimEvent.reportAt index) := by
        refine List.filterMap_cons_some ?_
        exact if_pos rfl
      have hlast : ((s.handed index).take (done index)).map Delivery.report =
          ((s.handed index).take count).map Delivery.report ++ [d.report] := by
        rw [hcount, List.take_add_one, hd, List.map_append]
        rfl
      rw [hlog, List.reverse_cons]
      change List.Sublist (_ ++ _) (((s.handed index).take (done index)).map Delivery.report)
      rw [hlast]
      exact hreports.append (List.Sublist.refl _)
    · have hlog : (s.credit index d message).log.filterMap (SimEvent.reportAt i) =
          s.log.filterMap (SimEvent.reportAt i) := by
        refine List.filterMap_cons_none ?_
        exact if_neg hsame
      rw [hlog]
      exact h.reports i

theorem audited_accountDelivery {d : Delivery} (h : s.Audited done) (hops : Float)
    (hd : (s.handed index)[done index]? = some d) :
    (accountDelivery index (s, hops) d).1.Audited
        (Function.update done index (done index + 1)) ∧
      (accountDelivery index (s, hops) d).1.nodes = s.nodes := by
  have hcounted := h.countAt hd
  rcases accountDelivery_cases index s hops d with heq | ⟨message, hlookup, hopen, hhere, heq⟩
  · rw [heq]
    exact ⟨hcounted, rfl⟩
  · rw [heq]
    exact ⟨hcounted.credit hlookup hopen hhere (Function.update_self ..) hd (h.reports index), rfl⟩

theorem handed_of_nodes (h : s'.nodes = s.nodes) (i : Nat) : s'.handed i = s.handed i := by
  unfold handed device?
  rw [h]

/-- All that a node was handed and that was not counted yet is counted. -/
theorem audited_accountDeliveries {l : List Delivery} (h : s.Audited done) (hops : Float)
    (hl : (s.handed index).drop (done index) = l) :
    (l.foldl (accountDelivery index) (s, hops)).1.Audited
        (Function.update done index (s.handed index).length) ∧
      (l.foldl (accountDelivery index) (s, hops)).1.nodes = s.nodes := by
  induction l generalizing s done hops with
  | nil =>
    have hdone : done index = (s.handed index).length :=
      Nat.le_antisymm (h.within index) (List.drop_eq_nil_iff.mp hl)
    rw [← hdone, Function.update_eq_self]
    exact ⟨h, rfl⟩
  | cons d l ih =>
    have hd : (s.handed index)[done index]? = some d := by
      rw [← List.head?_drop, hl]
      rfl
    obtain ⟨hone, hnodes⟩ := audited_accountDelivery h hops hd
    rw [List.foldl_cons]
    generalize accountDelivery index (s, hops) d = acc at hone hnodes ⊢
    rcases acc with ⟨next, hops⟩
    have hhanded : next.handed index = s.handed index := handed_of_nodes hnodes index
    have hrest := ih hone hops (by rw [hhanded, Function.update_self, ← List.tail_drop, hl]; rfl)
    rw [hhanded, Function.update_idem] at hrest
    exact ⟨hrest.1, hrest.2.trans hnodes⟩

theorem Accounted.handed (h : s.Accounted s') (i : Nat) : s'.handed i = s.handed i := by
  have hdevice := congrArg (Option.map fun found : Device × Position => found.1) (h.nodes i)
  rw [Option.map_map, Option.map_map] at hdevice
  have hsame : s'.device? i = s.device? i := hdevice
  unfold Simulation.handed
  rw [hsame]

theorem received_modifyNode (stats : SimStats) (index : Nat) (g : NodeStats → NodeStats)
    (hg : ∀ p, (g p).messagesReceived = p.messagesReceived) :
    (stats.modifyNode index g).perNode.map (·.messagesReceived) =
      stats.perNode.map (·.messagesReceived) := by
  refine List.ext_getElem? fun i => ?_
  unfold SimStats.modifyNode
  simp only [List.getElem?_map, List.getElem?_modify, Option.map_eq_map, Option.map_map]
  congr 1
  funext p
  simp only [Function.comp_apply]
  split
  · exact hg p
  · rfl

/-- What the simulation keeps of a node beside its device, and the counters of the node but
for its messages, may be anything. -/
theorem goes_modify (s : Simulation) (index : Nat) (f : SimNode → SimNode)
    (g : NodeStats → NodeStats) (hf : ∀ m, (f m).device = m.device)
    (hg : ∀ p, (g p).messagesReceived = p.messagesReceived) :
    s.Goes { s with nodes := s.nodes.modify index f, stats := s.stats.modifyNode index g } := by
  refine ⟨List.length_modify .., ?_, rfl, ?_, rfl, rfl, [], rfl, nofun⟩
  · intro i m hm
    refine ⟨if index = i then f m else m, ?_, ?_⟩
    · simp only [List.getElem?_modify, hm, Option.map_eq_map, Option.map_some]
    · split
      · rw [hf]
        exact .refl _
      · exact .refl _
  · exact received_modifyNode s.stats index g hg

theorem seenAt_modify (s : Simulation) (hn : s.nodes[index]? = some n) (f : SimNode → SimNode)
    (stats : SimStats) :
    ({ s with nodes := s.nodes.modify index f, stats := stats } : Simulation).seenAt =
      Function.update s.seenAt index (f n).seen := by
  funext i
  unfold seenAt
  simp only [List.getElem?_modify, Option.map_eq_map, Option.map_map]
  by_cases hi : i = index
  · subst hi
    rw [hn, Function.update_self, Option.map_some, Function.comp_apply, if_pos rfl]
    rfl
  · rw [Function.update_of_ne hi]
    congr 2
    funext m
    rw [Function.comp_apply, if_neg (Ne.symm hi)]

/-- What a node was handed is noted to have been counted. -/
theorem Audited.modify {count : Nat} (h : s.Audited (Function.update s.seenAt index count))
    (hn : s.nodes[index]? = some n) (f : SimNode → SimNode) (g : NodeStats → NodeStats)
    (hf : ∀ m, (f m).device = m.device) (hg : ∀ p, (g p).messagesReceived = p.messagesReceived)
    (hseen : (f n).seen = count) :
    Audited { s with nodes := s.nodes.modify index f, stats := s.stats.modifyNode index g }
        (seenAt { s with nodes := s.nodes.modify index f, stats := s.stats.modifyNode index g }) ∧
      seenAt { s with nodes := s.nodes.modify index f, stats := s.stats.modifyNode index g } =
        Function.update s.seenAt index count := by
  have hcursor := s.seenAt_modify hn f (s.stats.modifyNode index g)
  rw [hseen] at hcursor
  refine ⟨?_, hcursor⟩
  rw [hcursor]
  exact h.goes (s.goes_modify index f g hf hg)

theorem passes_noteInclusion (index : Nat) (s : Simulation) (event : InclusionEvent) :
    s.Passes (s.note (.inclusion index event)) :=
  passes_of_nodes rfl rfl rfl rfl rfl [.inclusion index event] rfl
    (List.forall_mem_singleton.mpr rfl)

/-- After a node is accounted for, all that it was handed is counted. -/
theorem audited_accountNode (h : s.Audited s.seenAt) (hops : Float) (index : Nat) :
    (accountNode (s, hops) index).1.Audited (accountNode (s, hops) index).1.seenAt ∧
      (accountNode (s, hops) index).1.seenAt =
        Function.update s.seenAt index (s.handed index).length := by
  unfold accountNode
  cases hn : s.nodes[index]? with
  | none =>
    have hnothing : s.seenAt index = (s.handed index).length := by
      unfold seenAt
      rw [hn, handed_eq_nil hn]
      rfl
    simp only
    rw [← hnothing, Function.update_eq_self]
    exact ⟨h, rfl⟩
  | some n =>
    have hseen : s.seenAt index = n.seen := by
      unfold seenAt
      rw [hn]
      rfl
    have hdrop : (s.handed index).drop (s.seenAt index) =
        n.device.router.handed.drop n.seen := by rw [handed_eq hn, hseen]
    obtain ⟨haudited, hnodes⟩ := audited_accountDeliveries h hops hdrop
    rw [handed_eq hn] at haudited
    simp only
    generalize (n.device.router.handed.drop n.seen).foldl (accountDelivery index) (s, hops) =
      counted at haudited hnodes ⊢
    rcases counted with ⟨counted, hops⟩
    have hnotes := Passes.foldl (passes_noteInclusion index) counted
      (n.device.notified.drop n.seenInclusions)
    simp only at haudited hnodes hnotes ⊢
    generalize List.foldl (fun s event => note s (.inclusion index event)) counted _ = noted
      at hnotes ⊢
    have hbefore : noted.seenAt = s.seenAt := by
      funext i
      rw [hnotes.seen]
      unfold seenAt
      rw [hnodes]
    obtain ⟨m, hm, _⟩ := hnotes.device index n (by rw [hnodes, hn])
    have hnoted := haudited.goes hnotes.toGoes
    rw [← hbefore] at hnoted ⊢
    rw [handed_eq hn]
    exact hnoted.modify hm _ _ (fun _ => rfl) (fun _ => rfl) rfl

theorem audited_accountNodes (h : s.Audited s.seenAt) (hops : Float) (indices : List Nat) :
    (indices.foldl accountNode (s, hops)).1.Audited
        (indices.foldl accountNode (s, hops)).1.seenAt ∧
      ∀ i, i ∈ indices ∨ s.seenAt i = (s.handed i).length →
        (indices.foldl accountNode (s, hops)).1.seenAt i = (s.handed i).length := by
  induction indices generalizing s hops with
  | nil => exact ⟨h, fun i hi => hi.resolve_left List.not_mem_nil⟩
  | cons index indices ih =>
    have hhanded := (accounted_accountNode (s, hops) index).handed
    obtain ⟨hone, hseen⟩ := audited_accountNode h hops index
    rw [List.foldl_cons]
    generalize accountNode (s, hops) index = acc at hhanded hone hseen ⊢
    rcases acc with ⟨next, hops⟩
    obtain ⟨hall, hcounted⟩ := ih hone hops
    refine ⟨hall, fun i hi => ?_⟩
    simp only at hhanded hseen hcounted
    rw [← hhanded]
    refine hcounted i ?_
    rw [hhanded, hseen]
    by_cases hsame : i = index
    · subst hsame
      exact .inr (Function.update_self ..)
    · rw [Function.update_of_ne hsame]
      exact hi.imp_left fun hmem => (List.mem_cons.mp hmem).resolve_left hsame

/-- After the accounts all that any node was handed is counted. -/
theorem audited_account (h : s.Audited s.seenAt) :
    s.account.Audited s.account.seenAt ∧ ∀ i, s.account.seenAt i = (s.account.handed i).length := by
  have hhanded := (accounted_account s).handed
  obtain ⟨haudited, hcounted⟩ := audited_accountNodes h
    (s.stats.averageHops * s.stats.messagesDelivered.toFloat) (List.range s.nodes.length)
  have hall : ∀ i, i ∈ List.range s.nodes.length ∨ s.seenAt i = (s.handed i).length := by
    intro i
    by_cases hi : i < s.nodes.length
    · exact .inl (List.mem_range.mpr hi)
    · have hnone : s.nodes[i]? = none := List.getElem?_eq_none (Nat.le_of_not_lt hi)
      refine .inr ?_
      unfold seenAt
      rw [hnone, handed_eq_nil hnone]
      rfl
  have hmean : s.account.Audited s.account.seenAt ∧
      s.account.seenAt = ((List.range s.nodes.length).foldl accountNode
        (s, s.stats.averageHops * s.stats.messagesDelivered.toFloat)).1.seenAt := by
    unfold account
    simp only
    split
    · exact ⟨haudited.passes (passes_of_nodes rfl rfl rfl rfl rfl [] rfl nofun), rfl⟩
    · exact ⟨haudited, rfl⟩
  refine ⟨hmean.1, fun i => ?_⟩
  rw [hmean.2, hhanded]
  exact hcounted i (hall i)

theorem audited_step (h : s.Audited s.seenAt) :
    s.step.2.Audited s.step.2.seenAt ∧
      (s.step.1 = .ok () → ∀ i, s.step.2.seenAt i = (s.step.2.handed i).length) := by
  have htick : s.Passes s.tick := passes_of_nodes rfl rfl rfl rfl rfl [] rfl nofun
  have hpolled := (htick.trans s.tick.passes_propagate).trans
    (s.tick.propagate.passes_pollAll (List.range s.tick.propagate.nodes.length))
  unfold step
  simp only
  generalize s.tick.propagate.pollAll _ = polled at hpolled ⊢
  rcases polled with ⟨result, left⟩
  rcases result with e | _
  · exact ⟨h.passes hpolled, nofun⟩
  · obtain ⟨haudited, hall⟩ := audited_account (h.passes hpolled)
    exact ⟨haudited, fun _ => hall⟩

end Simulation
end Meshwork
