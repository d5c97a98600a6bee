import Meshwork.Proofs.Station.Conduct

/-!
# The way that a frame goes

A unicast that names its next hop goes along a route of the table. The table is asked
right before the frame is handed to the radio, and neither sending nor what is done
afterwards changes anything in it.
-/

namespace Meshwork
set_option autoImplicit false

/-- If a packet is for one node and names who is to take it, one route leads to its
destination through that node, both before and after. -/
def Packet.Follows (before after : RouteTable) (q : Packet) : Prop :=
  q.isBroadcast = false → q.nextHop.isBroadcast = false →
    ∃ e, before.lookup q.destination = some e ∧ after.lookup q.destination = some e ∧
      e.nextHop = q.nextHop

namespace Packet

variable {p q : Packet} {before after : RouteTable} {r : Router}

/-- Whoever hears a packet may take it. -/
theorem follows_broadcast (h : q.nextHop = .broadcast) : q.Follows before after := by
  intro _ hnamed
  rw [h] at hnamed
  cases hnamed

theorem follows_nextHop (h : q.isBroadcast = false → q.nextHop = r.nextHop q.destination) :
    q.Follows r.table r.table := by
  intro hone hnamed
  have hnext := h hone
  unfold Router.nextHop at hnext
  cases hlookup : r.table.lookup q.destination with
  | none =>
    rw [hlookup] at hnext
    rw [show q.nextHop = .broadcast from hnext] at hnamed
    cases hnamed
  | some e =>
    rw [hlookup] at hnext
    exact ⟨e, rfl, rfl, hnext.symm⟩

end Packet

namespace Station

variable {s : Station} {p : Packet} {keys : KeyRing} {now : Nat}

/-! ## Sending leaves the table alone -/

theorem table_send (s : Station) (frame : Bytes) :
    (s.send frame).2.router.table = s.router.table := by
  rcases s.send_cases frame with ⟨e, _, h⟩ | ⟨_, h⟩
  · rw [h]
  · rw [h]

theorem table_transmit (s : Station) (p : Packet) (now : Nat) :
    (s.transmit p now).2.router.table = s.router.table := by
  unfold transmit
  split
  · rfl
  · rename_i frame _
    have hsend := (s.record p now).table_send frame
    generalize (s.record p now).send frame = sent at hsend ⊢
    rcases sent with ⟨result, sent⟩
    cases result with
    | error e => exact hsend
    | ok done => exact hsend

theorem table_relay (s : Station) (p : Packet) (nextHop : NodeId) :
    (s.relay p nextHop).2.router.table = s.router.table := by
  unfold relay
  split
  · rfl
  split
  · rfl
  rename_i frame _
  have hsend := s.table_send frame
  generalize s.send frame = sent at hsend ⊢
  rcases sent with ⟨result, sent⟩
  cases result with
  | error e => exact hsend
  | ok done =>
    simp only
    split
    · exact hsend
    · exact hsend

/-- A delivery takes a route away only if it is a goodbye. -/
theorem table_deliver (hbye : p.topic ≠ .bye) (s : Station) (keys : KeyRing) :
    (s.deliver p keys).2.router.table = s.router.table := by
  unfold deliver Router.deliver Router.heedBye
  rw [if_neg hbye]
  simp only
  split
  · rfl
  · split
    · rfl
    · rfl

/-! ## What goes on the air -/

theorem follows_transmit (s : Station) (p : Packet) (now : Nat) :
    Airs (·.Follows s.router.table (s.transmit p now).2.router.table) s (s.transmit p now).2 := by
  rw [table_transmit]
  refine (s.airs_transmit p now).mono ?_
  rintro q rfl
  refine Packet.follows_nextHop fun hone => ?_
  change p.isBroadcast = false at hone
  unfold address
  rw [hone]
  rfl

theorem follows_originate (s : Station) (destination : NodeId) (topic : Topic) (payload : Bytes)
    (now : Nat) (keys : KeyRing) :
    Airs (·.Follows s.router.table
        (s.originate destination topic payload now keys).2.router.table) s
      (s.originate destination topic payload now keys).2 := by
  unfold originate
  rcases s.compose_cases destination topic payload keys with
    ⟨e, draws, h⟩ | ⟨id, blob, draws, h⟩
  · rw [h]
    exact .silent rfl
  · rw [h]
    exact (follows_transmit { s with draws := draws } _ now).of_radio rfl

theorem follows_forward (s : Station) (p : Packet) :
    Airs (·.Follows s.router.table (s.forward p).2.router.table) s (s.forward p).2 := by
  unfold forward
  split
  · exact .silent rfl
  split
  · exact .silent rfl
  rw [table_relay]
  refine (s.airs_relay_to p _).mono ?_
  rintro q ⟨_, rfl⟩
  exact Packet.follows_nextHop fun _ => rfl

theorem follows_spread (s : Station) (p : Packet) (keys : KeyRing) :
    Airs (·.Follows s.router.table (s.spread p keys).2.router.table) s (s.spread p keys).2 := by
  have hradio := s.deliver_radio p keys
  unfold spread
  generalize s.deliver p keys = delivered at hradio ⊢
  rcases delivered with ⟨result, delivered⟩
  change delivered.radio = s.radio at hradio
  simp only
  split
  · refine ((delivered.airs_relay_to p .broadcast).of_radio hradio.symm).mono ?_
    rintro q ⟨_, rfl⟩
    exact Packet.follows_broadcast rfl
  · cases result with
    | error reason => exact .silent hradio
    | ok done => exact .silent hradio

/-- No goodbye is answered, so the answer finds the table as it was. -/
theorem follows_deliverUnicast (s : Station) (p : Packet) (now : Nat) (keys : KeyRing) :
    Airs (·.Follows s.router.table (s.deliverUnicast p now keys).2.router.table) s
      (s.deliverUnicast p now keys).2 := by
  have hradio := s.deliver_radio p keys
  have htable : p.topic ≠ .bye → (s.deliver p keys).2.router.table = s.router.table :=
    fun hbye => table_deliver hbye s keys
  unfold deliverUnicast
  generalize s.deliver p keys = delivered at hradio htable ⊢
  rcases delivered with ⟨result, delivered⟩
  change delivered.radio = s.radio at hradio
  cases result with
  | error reason => exact .silent hradio
  | ok done =>
    simp only
    cases hreply : p.topic.reply? with
    | none => exact .silent hradio
    | some reply =>
      have hbye : p.topic ≠ .bye := by
        intro hbye
        rw [hbye] at hreply
        cases hreply
      have hanswer := delivered.follows_originate p.source reply (replyBody p reply) now keys
      replace hanswer : Airs _ s _ := hanswer.of_radio hradio.symm
      rw [show delivered.router.table = s.router.table from htable hbye] at hanswer
      simp only
      generalize delivered.originate p.source reply (replyBody p reply) now keys = answered
        at hanswer ⊢
      rcases answered with ⟨sent, answered⟩
      cases sent with
      | error e => exact hanswer
      | ok id => exact hanswer

theorem follows_dispatch (s : Station) (p : Packet) (now : Nat) (keys : KeyRing) :
    Airs (·.Follows s.router.table (s.dispatch p now keys).2.router.table) s
      (s.dispatch p now keys).2 := by
  unfold dispatch
  split
  · exact .silent rfl
  split
  · exact s.follows_deliverUnicast p now keys
  split
  · exact s.follows_spread p keys
  · exact s.follows_forward p

/-! ## Pieces of work -/

/-- What a device has its router do, once the router has screened what was heard. -/
inductive Work where
  | rest
  | transmit (p : Packet) (now : Nat)
  | originate (destination : NodeId) (topic : Topic) (payload : Bytes) (now : Nat) (keys : KeyRing)
  | dispatch (p : Packet) (now : Nat) (keys : KeyRing)

def Work.perform (s : Station) : Work → Station
  | rest => s
  | transmit p now => (s.transmit p now).2
  | originate destination topic payload now keys =>
    (s.originate destination topic payload now keys).2
  | dispatch p now keys => (s.dispatch p now keys).2

theorem forgets_work (s : Station) (work : Work) : s.router.Forgets (work.perform s).router := by
  cases work with
  | rest => exact Router.Forgets.refl _
  | transmit p now => exact s.forgets_transmit p now
  | originate destination topic payload now keys =>
    exact s.forgets_originate destination topic payload now keys
  | dispatch p now keys => exact (s.serves_dispatch p now keys).router

theorem follows_work (s : Station) (work : Work) :
    Airs (·.Follows s.router.table (work.perform s).router.table) s (work.perform s) := by
  cases work with
  | rest => exact .silent rfl
  | transmit p now => exact s.follows_transmit p now
  | originate destination topic payload now keys =>
    exact s.follows_originate destination topic payload now keys
  | dispatch p now keys => exact s.follows_dispatch p now keys

end Station
end Meshwork
