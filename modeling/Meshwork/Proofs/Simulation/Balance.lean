import Mathlib.Algebra.GroupWithZero.Nat
import Meshwork.Proofs.Device.Queues
import Meshwork.Proofs.Simulation.Chaining
import Meshwork.Proofs.Simulation.Sending

/-!
# No frame is lost and none is made up

A frame that a device has counted as sent waits in its outbox until the medium takes it, and
the medium gives every other device a copy, or counts one as lost. A copy waits in the inbox
until its device counts it as heard. So three sets of counters, which nobody compares, stay
in balance, also when a step is given up half-way.
-/

namespace Meshwork
set_option autoImplicit false

namespace Simulation

/-- The sum over all devices. -/
def total (s : Simulation) (count : Device → Nat) : Nat :=
  (s.nodes.map fun n => count n.device).sum

def sent (s : Simulation) : Nat := s.total fun d => d.router.stats.sent

def outgoing (s : Simulation) : Nat := s.total fun d => d.radio.outbox.length

def heard (s : Simulation) : Nat := s.total fun d => d.router.stats.received

def incoming (s : Simulation) : Nat := s.total fun d => d.radio.inbox.length

variable {s s' s'' : Simulation} {index : Nat} {n : SimNode} {d : Device}

theorem total_setDevice (hn : s.nodes[index]? = some n) (d : Device) (count : Device → Nat) :
    (s.setDevice index d).total count + count n.device = s.total count + count d := by
  have hsum : ∀ (nodes : List SimNode) (index : Nat), nodes[index]? = some n →
      ((nodes.modify index fun n => { n with device := d }).map fun n => count n.device).sum +
        count n.device = (nodes.map fun n => count n.device).sum + count d := by
    intro nodes
    induction nodes with
    | nil => nofun
    | cons first rest ih =>
      intro index hn
      cases index with
      | zero =>
        cases hn
        simp only [List.modify_zero_cons, List.map_cons, List.sum_cons]
        omega
      | succ index =>
        have hrest := ih index hn
        simp only [List.modify_succ_cons, List.map_cons, List.sum_cons]
        omega
  exact hsum s.nodes index hn

/-- What one device has more than it had, the sums have more. -/
theorem sums_setDevice (hn : s.nodes[index]? = some n) (d : Device) :
    (s.setDevice index d).sent + n.device.router.stats.sent = s.sent + d.router.stats.sent ∧
      (s.setDevice index d).outgoing + n.device.radio.outbox.length =
        s.outgoing + d.radio.outbox.length ∧
      (s.setDevice index d).heard + n.device.router.stats.received =
        s.heard + d.router.stats.received ∧
      (s.setDevice index d).incoming + n.device.radio.inbox.length =
        s.incoming + d.radio.inbox.length :=
  ⟨total_setDevice hn d _, total_setDevice hn d _, total_setDevice hn d _,
    total_setDevice hn d _⟩

theorem Accounted.total (h : s.Accounted s') (count : Device → Nat) :
    s'.total count = s.total count := by
  unfold Simulation.total
  congr 1
  refine List.ext_getElem? fun j => ?_
  rw [List.getElem?_map, List.getElem?_map]
  have hnode := congrArg (Option.map fun found : Device × Position => count found.1) (h.nodes j)
  rw [Option.map_map, Option.map_map] at hnode
  exact hnode

/-! ## The medium -/

/-- So many frames went on the air, and so many copies of them into inboxes or past a device.
Nothing was sent and nothing counted as heard meanwhile. -/
structure Spreads (frames copies : Nat) (s s' : Simulation) : Prop where
  length : s'.nodes.length = s.nodes.length
  transmitted : s'.stats.framesTransmitted = s.stats.framesTransmitted + frames
  copied : s'.stats.framesReceived + s'.stats.framesLost =
    s.stats.framesReceived + s.stats.framesLost + copies
  incoming : s'.incoming + s.stats.framesReceived = s.incoming + s'.stats.framesReceived
  outgoing : s'.outgoing = s.outgoing
  sent : s'.sent = s.sent
  heard : s'.heard = s.heard

variable {frames copies more further : Nat}

theorem Spreads.refl (s : Simulation) : Spreads 0 0 s s := ⟨rfl, rfl, rfl, rfl, rfl, rfl, rfl⟩

theorem Spreads.trans (h : Spreads frames copies s s') (h' : Spreads more further s' s'') :
    Spreads (frames + more) (copies + further) s s'' := by
  refine ⟨h'.length.trans h.length, ?_, ?_, ?_, h'.outgoing.trans h.outgoing,
    h'.sent.trans h.sent, h'.heard.trans h.heard⟩
  · rw [h'.transmitted, h.transmitted, Nat.add_assoc]
  · rw [h'.copied, h.copied, Nat.add_assoc]
  · have hfirst := h.incoming
    have hsecond := h'.incoming
    omega

theorem spreads_hear (sender receiver : Nat) (place : Position) (frame : Bytes)
    (hreceiver : receiver < s.nodes.length) :
    Spreads 0 (if receiver = sender then 0 else 1) s (hear sender place frame s receiver) := by
  unfold hear
  split
  · exact .refl s
  have hn := List.getElem?_eq_getElem hreceiver
  generalize s.nodes[receiver] = n at hn
  rw [hn]
  simp only
  split
  · have hlength : ∀ rssi, (n.take [(frame, rssi)]).device.radio.inbox.length =
        n.device.radio.inbox.length + 1 := fun rssi => List.length_append
    obtain ⟨hsent, houtgoing, hheard, hincoming⟩ := sums_setDevice hn
      (n.take [(frame, Medium.reported (s.setup.medium.rssi place n.position))]).device
    refine ⟨length_setDevice .., rfl, Nat.add_right_comm .., ?_, Nat.add_right_cancel houtgoing,
      Nat.add_right_cancel hsent, Nat.add_right_cancel hheard⟩
    rw [hlength] at hincoming
    change (s.setDevice receiver (n.take _).device).incoming + s.stats.framesReceived =
      s.incoming + (s.stats.framesReceived + 1)
    omega
  · exact ⟨rfl, rfl, rfl, rfl, rfl, rfl, rfl⟩

/-- Everybody but the sender gets a copy or misses one. -/
theorem spreads_hearAll (sender : Nat) (place : Position) (frame : Bytes) {count : Nat}
    (hcount : count ≤ s.nodes.length) :
    Spreads 0 (count - if sender < count then 1 else 0) s
      ((List.range count).foldl (hear sender place frame) s) := by
  induction count with
  | zero => exact .refl s
  | succ count ih =>
    have hbefore := ih (by omega)
    rw [List.range_succ, List.foldl_append]
    have hlast := hbefore.trans
      (spreads_hear sender count place frame (by rw [hbefore.length]; omega))
    have hcopies : (count - if sender < count then 1 else 0) + (if count = sender then 0 else 1) =
        count + 1 - if sender < count + 1 then 1 else 0 := by
      split_ifs <;> omega
    rw [← hcopies]
    exact hlast

theorem spreads_transmitFrame {sender : Nat} (place : Position) (frame : Bytes)
    (hsender : sender < s.nodes.length) :
    Spreads 1 (s.nodes.length - 1) s (transmitFrame sender place s frame) := by
  have hcounted : Spreads 1 0 s ({ s with
      stats.framesTransmitted := s.stats.framesTransmitted + 1 : Simulation }.note
        (.frameTransmitted sender frame.length)) := ⟨rfl, rfl, rfl, rfl, rfl, rfl, rfl⟩
  have hheard := hcounted.trans
    (spreads_hearAll sender place frame (Nat.le_of_eq hcounted.length.symm))
  rw [if_pos hsender, Nat.zero_add] at hheard
  exact hheard

theorem spreads_transmitFrames {sender : Nat} (place : Position) (frames : List Bytes)
    (hsender : sender < s.nodes.length) :
    Spreads frames.length ((s.nodes.length - 1) * frames.length) s
      (frames.foldl (transmitFrame sender place) s) := by
  induction frames generalizing s with
  | nil => exact .refl s
  | cons frame frames ih =>
    have hfirst := spreads_transmitFrame place frame hsender
    have hrest := ih (s := transmitFrame sender place s frame) (hfirst.length.symm ▸ hsender)
    rw [hfirst.length] at hrest
    rw [List.foldl_cons, List.length_cons, Nat.mul_succ, Nat.add_comm frames.length,
      Nat.add_comm (_ * _)]
    exact hfirst.trans hrest

/-! ## What keeps the balance -/

/-- Whatever was counted on one side was counted on the other. The equations are sums on both
sides, so that each of them holds along a chain of changes if it holds for every link. -/
structure Conserves (s s' : Simulation) : Prop where
  length : s'.nodes.length = s.nodes.length
  copied : s'.stats.framesReceived + s'.stats.framesLost +
      (s.nodes.length - 1) * s.stats.framesTransmitted =
    s.stats.framesReceived + s.stats.framesLost +
      (s.nodes.length - 1) * s'.stats.framesTransmitted
  sent : s'.sent + s.stats.framesTransmitted + s.outgoing =
    s.sent + s'.stats.framesTransmitted + s'.outgoing
  heard : s'.heard + s'.incoming + s.stats.framesReceived =
    s.heard + s.incoming + s'.stats.framesReceived

namespace Conserves

theorem refl (s : Simulation) : s.Conserves s := ⟨rfl, rfl, rfl, rfl⟩

theorem trans (h : s.Conserves s') (h' : s'.Conserves s'') : s.Conserves s'' := by
  have hcopied := h'.copied
  rw [h.length] at hcopied
  refine ⟨h'.length.trans h.length, ?_, ?_, ?_⟩
  · have hfirst := h.copied
    omega
  · have hfirst := h.sent
    have hsecond := h'.sent
    omega
  · have hfirst := h.heard
    have hsecond := h'.heard
    omega

theorem foldl {α : Type} {work : Simulation → α → Simulation}
    (hwork : ∀ (s : Simulation) (a : α), s.Conserves (work s a)) (s : Simulation) (l : List α) :
    s.Conserves (l.foldl work s) :=
  List.foldlRecOn l work (.refl s) fun s' h a _ => h.trans (hwork s' a)

end Conserves

theorem Accounted.conserves (h : s.Accounted s') : s.Conserves s' := by
  refine ⟨h.length, ?_, ?_, ?_⟩
  · rw [h.received, h.lost, h.transmitted]
  · unfold sent outgoing
    rw [h.transmitted, h.total, h.total]
  · unfold heard incoming
    rw [h.received, h.total, h.total]

theorem conserves_setDevice (hn : s.nodes[index]? = some n) (hbooks : n.device.Books d) :
    s.Conserves (s.setDevice index d) := by
  obtain ⟨hsent, houtgoing, hheard, hincoming⟩ := sums_setDevice hn d
  refine ⟨length_setDevice .., rfl, ?_, ?_⟩
  · have hbalance := hbooks.sent
    change _ + s.stats.framesTransmitted + _ = _ + s.stats.framesTransmitted + _
    omega
  · have hbalance := hbooks.received
    change _ + _ + s.stats.framesReceived = _ + _ + s.stats.framesReceived
    omega

theorem conserves_onDevice {α : Type} (s : Simulation) (index : Nat)
    (work : Device → Draws → Except MeshError α × Device × Draws)
    (hwork : ∀ (d : Device) (draws : Draws), d.Books (work d draws).2.1) :
    s.Conserves (s.onDevice index work).2 := by
  unfold onDevice device?
  cases hn : s.nodes[index]? with
  | none => exact .refl s
  | some n =>
    have hset := conserves_setDevice hn (hwork n.device s.draws)
    exact ⟨hset.length, hset.copied, hset.sent, hset.heard⟩

/-- What leaves an outbox goes on the air, and nobody else's outbox is touched. The balance is
out between the two, when the outbox is empty and the frames are not yet counted. -/
theorem conserves_transmitFrom (s : Simulation) (sender : Nat) :
    s.Conserves (s.transmitFrom sender) := by
  unfold transmitFrom
  cases hn : s.nodes[sender]? with
  | none => exact .refl s
  | some n =>
    obtain ⟨hsender, _⟩ := List.getElem?_eq_some_iff.mp hn
    change s.Conserves (n.device.radio.outbox.foldl (transmitFrame sender n.position)
      (s.setDevice sender n.emptied.device))
    obtain ⟨hsent, houtgoing, hheard, hincoming⟩ := sums_setDevice hn n.emptied.device
    have hstats : (s.setDevice sender n.emptied.device).stats = s.stats := rfl
    have hlength := length_setDevice s sender n.emptied.device
    generalize s.setDevice sender n.emptied.device = left at *
    obtain ⟨hsame, htransmitted, hcopied, harrived, hleft, hcounted, hlistened⟩ :=
      spreads_transmitFrames n.position n.device.radio.outbox (hlength.symm ▸ hsender)
    generalize n.device.radio.outbox.foldl _ left = spread at *
    rw [hstats] at htransmitted hcopied harrived
    rw [hlength] at hcopied
    refine ⟨hsame.trans hlength, ?_, ?_, ?_⟩
    · rw [htransmitted, Nat.mul_add]
      omega
    · rw [hcounted, hleft, htransmitted, Nat.add_right_cancel hsent]
      change left.outgoing + _ = s.outgoing + 0 at houtgoing
      omega
    · rw [hlistened, Nat.add_right_cancel hheard]
      have hnothing : left.incoming = s.incoming := Nat.add_right_cancel hincoming
      omega

theorem conserves_propagate (s : Simulation) : s.Conserves s.propagate :=
  Conserves.foldl conserves_transmitFrom s _

/-! ## Polls -/

theorem books_drainInbox (fuel : Nat) (d : Device) (now : UInt64) (draws : Draws) :
    d.Books (drainInbox fuel d now draws).2.1 :=
  chain_drainInbox .refl .trans (fun d draws => d.books_poll now draws) fuel d draws

/-- Every poll but the last takes a frame off, so one more poll than there are frames is
enough. -/
theorem inbox_drainInbox {fuel : Nat} {d : Device} {now : UInt64} {draws : Draws}
    (hfuel : d.radio.inbox.length < fuel) (hok : (drainInbox fuel d now draws).1 = .ok ()) :
    (drainInbox fuel d now draws).2.1.radio.inbox = [] := by
  induction fuel generalizing d draws with
  | zero => exact absurd hfuel (Nat.not_lt_zero _)
  | succ fuel ih =>
    have hempties := d.poll_empties now draws
    unfold drainInbox at hok ⊢
    generalize d.poll now draws = polled at hempties hok ⊢
    rcases polled with ⟨result, m, draws⟩
    rcases result with e | none | outcome
    · cases hok
    · -- nothing was found, so there was nothing
      rcases hempties with ⟨_, hradio, hempty, _⟩ | ⟨_, _, _, _, hsome⟩
      · exact (congrArg Radio.inbox hradio).trans (hempty rfl)
      · exact absurd rfl hsome
    · rcases hempties with ⟨_, _, _, hnone⟩ | ⟨entry, rest, hinbox, hworked, _⟩
      · exact absurd rfl (hnone outcome)
      · have hrest : m.radio.inbox = rest := hworked.inbox
        refine ih ?_ hok
        rw [hrest]
        rw [hinbox] at hfuel
        exact Nat.lt_of_succ_lt_succ hfuel

theorem conserves_pollAll (s : Simulation) (indices : List Nat) :
    s.Conserves (s.pollAll indices).2 :=
  chain_pollAll .refl .trans (fun s index => s.conserves_onDevice index _
    fun d draws => books_drainInbox _ d s.now draws) s indices

/-- The node with this index, if there is one, has nothing more to hear. -/
def Silent (s : Simulation) (index : Nat) : Prop :=
  ∀ n, s.nodes[index]? = some n → n.device.radio.inbox = []

theorem silent_drain {now : UInt64} {j : Nat}
    (hok : ∀ e, (s.onDevice index fun d draws => drainDevice d now draws).1 ≠ some (.error e))
    (hj : j = index ∨ s.Silent j) :
    (s.onDevice index fun d draws => drainDevice d now draws).2.Silent j := by
  unfold onDevice device? at hok ⊢
  cases hn : s.nodes[index]? with
  | none =>
    rcases hj with rfl | hsilent
    · intro n hsome
      cases hn.symm.trans hsome
    · exact hsilent
  | some n =>
    rw [hn] at hok
    simp only [Option.map_some] at hok ⊢
    have hdrained : (drainDevice n.device now s.draws).1 = .ok () →
        (drainDevice n.device now s.draws).2.1.radio.inbox = [] :=
      inbox_drainInbox (Nat.lt_succ_self n.device.radio.inbox.length)
    intro n' hn'
    by_cases hself : j = index
    · subst hself
      cases (nodes_setDevice_self hn _).symm.trans hn'
      refine hdrained ?_
      cases hresult : (drainDevice n.device now s.draws).1 with
      | error e => exact absurd (congrArg some hresult) (hok e)
      | ok done => rfl
    · exact hj.resolve_left hself n' ((nodes_setDevice_ne s (Ne.symm hself) _).symm.trans hn')

/-- A device that is polled is silent then, and no other device takes that away. -/
theorem silent_pollAll {indices : List Nat} (hok : (s.pollAll indices).1 = .ok ()) {j : Nat}
    (hj : j ∈ indices ∨ s.Silent j) : (s.pollAll indices).2.Silent j := by
  induction indices generalizing s with
  | nil => exact hj.resolve_left List.not_mem_nil
  | cons index rest ih =>
    have hdrain := @silent_drain s index s.now j
    unfold pollAll at hok ⊢
    generalize s.onDevice index _ = drained at hok hdrain ⊢
    rcases drained with ⟨result, left⟩
    have hfirst : (∀ e, result ≠ some (.error e)) → j ∈ rest ∨ left.Silent j := by
      intro hresult
      rw [List.mem_cons, or_assoc, or_left_comm] at hj
      exact hj.imp_right (hdrain hresult)
    rcases result with none | e | _
    · refine ih hok (hfirst ?_)
      rintro e ⟨⟩
    · cases hok
    · refine ih hok (hfirst ?_)
      rintro e ⟨⟩

theorem silent_step (hok : s.step.1 = .ok ()) :
    ∀ n ∈ s.step.2.nodes, n.device.radio.inbox = [] := by
  have hpolled := @silent_pollAll s.tick.propagate (List.range s.tick.propagate.nodes.length)
  have hlength := (s.tick.propagate.conserves_pollAll
    (List.range s.tick.propagate.nodes.length)).length
  unfold step at hok ⊢
  simp only at hok ⊢
  generalize s.tick.propagate.pollAll _ = polled at hok hpolled hlength ⊢
  rcases polled with ⟨result, left⟩
  match result with
  | .error e => cases hok
  | .ok () =>
    have haccount := accounted_account left
    intro n hn
    obtain ⟨j, hj⟩ := List.mem_iff_getElem?.mp hn
    obtain ⟨hlt, _⟩ := List.getElem?_eq_some_iff.mp hj
    rw [haccount.length] at hlt
    obtain ⟨n', hn', hdevice, _⟩ := haccount.node (List.getElem?_eq_getElem hlt)
    cases hj.symm.trans hn'
    rw [hdevice]
    exact hpolled rfl (.inl (List.mem_range.mpr (hlength ▸ hlt))) _ (List.getElem?_eq_getElem hlt)

/-! ## Everything that is done -/

theorem conserves_step (s : Simulation) : s.Conserves s.step.2 := by
  have htick : s.Conserves s.tick := ⟨rfl, rfl, rfl, rfl⟩
  have hair := htick.trans s.tick.conserves_propagate
  have hpolled := hair.trans
    (s.tick.propagate.conserves_pollAll (List.range s.tick.propagate.nodes.length))
  unfold step
  simp only
  generalize s.tick.propagate.pollAll _ = polled at hpolled ⊢
  rcases polled with ⟨result, left⟩
  match result with
  | .error e => exact hpolled
  | .ok () => exact hpolled.trans (accounted_account left).conserves

theorem conserves_provisionAll (s : Simulation) : s.Conserves s.provisionAll.2 := by
  refine chain_provisionAll .refl .trans (fun s index n key hn => ?_) (fun s => ?_)
    (fun s n hn => ?_) s
  · exact conserves_setDevice hn (n.device.books_operate (.provision key) s.draws rfl)
  · exact s.conserves_onDevice 0 _ fun d draws => d.books_operate .enableInclusion draws rfl
  · exact conserves_setDevice hn (n.device.books_operate .disableInclusion s.draws rfl)

theorem conserves_originate (s : Simulation) (sender : Nat) (destination : NodeId)
    (receiver : Option Nat) (topic : Topic) (payload : Bytes) :
    s.Conserves (s.originate sender destination receiver topic payload).2 := by
  have hsend := s.conserves_onDevice sender
    (fun d draws => d.send destination topic payload s.now draws)
    fun d draws => (d.worked_send destination topic payload s.now draws).books
  unfold originate
  generalize s.onDevice sender _ = sent at hsend ⊢
  rcases sent with ⟨result, left⟩
  match result with
  | none => exact hsend
  | some (.error e) => exact hsend
  | some (.ok packetId) => exact ⟨hsend.length, hsend.copied, hsend.sent, hsend.heard⟩

/-- What is done with a simulation and with the devices in it. -/
inductive Act where
  | send (sender receiver : Nat) (topic : Topic) (payload : Bytes)
  | broadcast (sender : Nat) (topic : Topic) (payload : Bytes)
  | provisionAll
  | step
  | operate (index : Nat) (deed : Device.Deed)
  | failSend (index : Nat) (on : Bool)

/-- What is left of the simulation, whether or not the act fails. -/
def Act.perform (s : Simulation) : Act → Simulation
  | send sender receiver topic payload => (s.send sender receiver topic payload).2
  | broadcast sender topic payload => (s.broadcast sender topic payload).2
  | provisionAll => s.provisionAll.2
  | step => s.step.2
  | operate index deed =>
    (s.onDevice index fun d draws => (.ok (), deed.perform (d, draws))).2
  | failSend index on =>
    (s.onDevice index fun d draws =>
      (.ok (), { d with radio := d.radio.failSend on }, draws)).2

def Act.sparesQueues : Act → Bool
  | operate _ deed => deed.sparesQueues
  | _ => true

theorem conserves_perform (s : Simulation) {act : Act} (hspares : act.sparesQueues = true) :
    s.Conserves (act.perform s) := by
  cases act with
  | send sender receiver topic payload =>
    change s.Conserves (s.send sender receiver topic payload).2
    unfold send
    split
    · exact .refl s
    · exact s.conserves_originate ..
  | broadcast sender topic payload => exact s.conserves_originate ..
  | provisionAll => exact s.conserves_provisionAll
  | step => exact s.conserves_step
  | operate index deed =>
    exact s.conserves_onDevice index _ fun d draws => d.books_deed draws hspares
  | failSend index on =>
    exact s.conserves_onDevice index _ fun d draws => Device.books_of_eq rfl rfl rfl

/-! ## Whole runs -/

/-- The states of a simulation in which all nodes were there before the first frame was on
the air. -/
inductive Evolved (setup : SimSetup) (draws : Draws) : Simulation → Prop where
  | empty : Evolved setup draws (empty setup draws)
  | add {s : Simulation} (config : Config) (position : Position) :
      s.stats.framesTransmitted = 0 → Evolved setup draws s →
        Evolved setup draws (s.addNode config position).2
  | act {s : Simulation} (act : Act) :
      act.sparesQueues = true → Evolved setup draws s → Evolved setup draws (act.perform s)

/-- Of every frame on the air everybody else got a copy or missed one. What a device counted
as sent is on the air or waits in an outbox, and what the medium counted as heard was counted
by its device or waits in an inbox. -/
structure Balanced (s : Simulation) : Prop where
  copied : s.stats.framesReceived + s.stats.framesLost =
    (s.nodes.length - 1) * s.stats.framesTransmitted
  sent : s.sent = s.stats.framesTransmitted + s.outgoing
  heard : s.heard + s.incoming = s.stats.framesReceived

theorem Balanced.of_conserves (h : s.Balanced) (hconserves : s.Conserves s') : s'.Balanced := by
  have hcopied := hconserves.copied
  have hsent := hconserves.sent
  have hheard := hconserves.heard
  rw [h.copied] at hcopied
  rw [h.sent] at hsent
  rw [← h.heard] at hheard
  refine ⟨?_, by omega, by omega⟩
  rw [hconserves.length]
  omega

theorem books_freshDevice {config : Config} {now : UInt64} (h : freshDevice config now = .ok d) :
    d.router.stats.sent = d.radio.outbox.length ∧
      d.router.stats.received + d.radio.inbox.length = 0 := by
  unfold freshDevice at h
  split at h
  · cases h
  rename_i created hcreate
  have hinit := created.books_init now
  obtain rfl := Device.eq_of_create hcreate
  generalize Device.init _ now = initialized at h hinit
  rcases initialized with ⟨result, m⟩
  cases result with
  | error e => cases h
  | ok done =>
    simp only at h
    split at h
    · cases h
    · rename_i m' hlisten
      have hbooks := (hinit.trans (Device.books_listen hlisten)).trans
        (Device.books_listenInclusion h)
      exact ⟨hbooks.sent.trans (Nat.zero_add _), hbooks.received⟩

theorem Balanced.addNode (h : s.Balanced) (hbefore : s.stats.framesTransmitted = 0)
    (config : Config) (position : Position) : (s.addNode config position).2.Balanced := by
  unfold Simulation.addNode
  split
  · exact h
  split
  · exact h
  · rename_i d hfresh
    obtain ⟨hsent, hheard⟩ := books_freshDevice hfresh
    have htotal : ∀ count : Device → Nat,
        ((s.nodes ++ [SimNode.mk d position 0 0]).map fun n => count n.device).sum =
          s.total count + count d := by
      intro count
      rw [List.map_append, List.sum_append]
      rfl
    refine ⟨?_, ?_, ?_⟩
    · have hcopied := h.copied
      change s.stats.framesReceived + s.stats.framesLost = _ * s.stats.framesTransmitted
      rw [hcopied, hbefore, Nat.mul_zero, Nat.mul_zero]
    · have hbalance := h.sent
      refine (htotal fun d => d.router.stats.sent).trans ?_
      refine Eq.trans ?_ (congrArg (s.stats.framesTransmitted + ·)
        (htotal fun d => d.radio.outbox.length).symm)
      change s.sent + _ = _ + (s.outgoing + _)
      omega
    · have hbalance := h.heard
      refine (congrArg₂ (· + ·) (htotal fun d => d.router.stats.received)
        (htotal fun d => d.radio.inbox.length)).trans ?_
      change s.heard + _ + (s.incoming + _) = s.stats.framesReceived
      omega

/-- Whatever is done with a simulation that had all its nodes before the first frame was on
the air, its three sets of counters agree, whether radios and steps fail or not. And after a
step that comes through nobody has a frame left to hear. -/
theorem balanced_of_evolved {setup : SimSetup} {draws : Draws} (h : Evolved setup draws s) :
    s.Balanced ∧ (s.step.1 = .ok () → ∀ n ∈ s.step.2.nodes, n.device.radio.inbox = []) := by
  refine ⟨?_, silent_step⟩
  induction h with
  | empty => exact ⟨rfl, rfl, rfl⟩
  | add config position hbefore _ ih => exact ih.addNode hbefore config position
  | act act hspares _ ih => exact ih.of_conserves (conserves_perform _ hspares)

/-- Two devices that are added one after the other and get a key. -/
def samplePair : Simulation :=
  Act.perform (Act.perform
    (((empty {} sampleDraws).addNode (.standard ⟨1⟩) ⟨0, 0⟩).2.addNode (.standard ⟨2⟩) ⟨100, 0⟩).2
    (.operate 0 (.operate (.provision sampleKey)))) (.operate 1 (.operate (.provision sampleKey)))

theorem evolved_samplePair : Evolved {} sampleDraws samplePair :=
  .act _ rfl (.act _ rfl (.add _ _ rfl (.add _ _ rfl .empty)))

theorem samplePair_works (hn : samplePair.nodes[index]? = some n) :
    n.device.Works .software sampleKey ∧ n.device.state = .included ∧ n.device.radio = {} := by
  match index with
  | 0 =>
    cases hn
    exact ⟨⟨⟨rfl, rfl⟩, rfl, rfl, fun _ => rfl⟩, rfl, rfl⟩
  | 1 =>
    cases hn
    exact ⟨⟨⟨rfl, rfl⟩, rfl, rfl, fun _ => rfl⟩, rfl, rfl⟩
  | _ + 2 => cases hn

/-- What the first of the two has sent is an ordinary message. -/
theorem samplePair_ready {m : Packet} {text : Bytes} {n' : SimNode}
    (hn : samplePair.nodes[0]? = some n) (hsent : Sent samplePair s 0 m n n')
    (hcarries : m.Carries .software sampleKey text) : s.IsReady .software sampleKey := by
  have hnodes : ∀ a ∈ s.nodes, a.device.Works .software sampleKey ∧
      a.device.radio.inbox = [] ∧ ∀ frame ∈ a.device.radio.outbox, IsPlain frame := by
    intro a ha
    obtain ⟨i, hi⟩ := List.mem_iff_getElem?.mp ha
    obtain ⟨hworks, _, hradio⟩ := samplePair_works hn
    have hradio' := hsent.radio
    rw [hradio] at hradio'
    by_cases hfirst : i = 0
    · subst hfirst
      cases hsent.node.symm.trans hi
      rw [hradio']
      refine ⟨⟨hsent.device.keys ▸ hworks.keys, ?_, ?_, hsent.device.accepts⟩, rfl, ?_⟩
      · rw [hradio']
      · rw [hradio']
      · intro frame hframe
        rw [List.mem_singleton.mp hframe]
        exact Packet.HasCopy.isPlain hcarries ⟨_, _, _, rfl⟩
    · rw [hsent.other i hfirst] at hi
      obtain ⟨hother, _, hquiet⟩ := samplePair_works hi
      rw [hquiet]
      exact ⟨hother, rfl, nofun⟩
  exact ⟨fun a ha => (hnodes a ha).1, fun a ha => (hnodes a ha).2.1, fun a ha => (hnodes a ha).2.2⟩

/-- What one of the two tells everybody is on the air after the next step. -/
theorem balanced_of_evolved_pair :
    ∃ sent final, samplePair.broadcast 0 .ping [104, 105] = (.ok 0, sent) ∧
      sent.step = (.ok (), final) ∧ final.stats.framesTransmitted = 1 ∧
      final.stats.framesReceived + final.stats.framesLost = 1 ∧
      ∀ n ∈ final.nodes, n.device.radio.inbox = [] := by
  obtain ⟨n, hn⟩ : ∃ n, samplePair.nodes[0]? = some n := ⟨_, rfl⟩
  obtain ⟨hworks, hmember, hradio⟩ := samplePair_works hn
  have hcanonical : Topic.isCanonical .ping = true := rfl
  have hshort : ([104, 105] : Bytes).length ≤ 201 := by decide
  obtain ⟨m, sent, n', _, hcarries, hbroadcast, hsent⟩ := originate_eq hn hworks hmember
    CryptoProvider.software_isFaithful .broadcast none hcanonical rfl hshort
  obtain ⟨final, draws, hstep, hstepped⟩ := step_eq (samplePair_ready hn hsent hcarries)
    CryptoProvider.software_isFaithful
  have hframes : final.stats.framesTransmitted = 1 := by
    rw [hstepped.transmitted, hsent.transmitted, hsent.length]
    change 0 + ∑ i ∈ Finset.range 2, sent.waiting i = 1
    rw [Finset.sum_range_succ, Finset.sum_range_one]
    unfold waiting
    rw [hsent.node, hsent.other 1 (by decide)]
    simp only
    rw [hsent.radio, hradio]
    rfl
  have hevolved : Evolved {} sampleDraws sent := by
    have hact := Evolved.act (.broadcast 0 .ping [104, 105]) rfl evolved_samplePair
    have hperform : Act.perform samplePair (.broadcast 0 .ping [104, 105]) = sent :=
      congrArg Prod.snd hbroadcast
    rw [hperform] at hact
    exact hact
  obtain ⟨_, hempty⟩ := balanced_of_evolved hevolved
  obtain ⟨hbalanced, _⟩ := balanced_of_evolved (.act .step rfl hevolved)
  have hcopied := hbalanced.copied
  have hperform : Act.perform sent .step = final := congrArg Prod.snd hstep
  rw [hperform, hframes, hstepped.length, hsent.length] at hcopied
  refine ⟨sent, final, hbroadcast, hstep, hframes, hcopied, ?_⟩
  rw [hstep] at hempty
  exact hempty rfl

end Simulation
end Meshwork
