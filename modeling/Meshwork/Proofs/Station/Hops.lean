import Meshwork.Proofs.Station.Emissions
import Meshwork.Proofs.Station.Usability

/-!
# Hops that are counted in a byte

A router adds one to the hops of a packet in two places, where it learns the way back
and where it sends the packet on. Neither addition looks at how large its byte is: what
keeps it from starting over at nothing is a comparison with the limit of the router, made
before. A route that had started over would pass for the best one of all.
-/

namespace Meshwork
set_option autoImplicit false

/-- One hop more, if a byte can tell it. -/
def oneHopMore? (hops : UInt8) : Option UInt8 :=
  if hops.toNat + 1 < UInt8.size then some (hops + 1) else none

/-- A hop is spent with an addition that may be refused. -/
def Packet.spendHop? (p : Packet) (limit : UInt8) : Option (Except PacketError Packet) :=
  if p.isAtMaxHops limit then some (.error (.maxHops p.hopCount limit))
  else (oneHopMore? p.hopCount).map fun hops => .ok { p with hopCount := hops }

/-- The way to a source is learned with an addition that may be refused. -/
def Router.learnSource? (r : Router) (p : Packet) (rssi : Int16) (now : Nat) : Option Router :=
  if p.hopCount.toNat < r.maxHops.toNat - 1 then
    (oneHopMore? p.hopCount).map fun hops => r.offer p.source p.lastHop hops rssi now
  else some r

theorem oneHopMore?_of_lt {hops limit : UInt8} (h : hops.toNat < limit.toNat) :
    oneHopMore? hops = some (hops + 1) :=
  if_pos (Nat.lt_of_le_of_lt h limit.toNat_lt)

theorem Packet.spendHop?_eq (p : Packet) (limit : UInt8) :
    p.spendHop? limit = some (p.spendHop limit) := by
  unfold spendHop? spendHop isAtMaxHops
  by_cases h : limit ≤ p.hopCount
  · rw [if_pos (decide_eq_true h), if_pos (decide_eq_true h)]
  · have hwithin : p.hopCount.toNat < limit.toNat := UInt8.lt_iff_toNat_lt.mp (UInt8.not_le.mp h)
    rw [if_neg (by simpa using h), if_neg (by simpa using h), oneHopMore?_of_lt hwithin]
    rfl

theorem Router.learnSource?_eq (r : Router) (p : Packet) (rssi : Int16) (now : Nat) :
    r.learnSource? p rssi now = some (r.learnSource p rssi now) := by
  unfold learnSource? learnSource
  by_cases h : p.hopCount.toNat < r.maxHops.toNat - 1
  · rw [if_pos h, if_pos h, oneHopMore?_of_lt (Nat.lt_of_lt_of_le h (Nat.sub_le _ 1))]
    rfl
  · rw [if_neg h, if_neg h]

/-- A route is one hop long or shorter than a packet may travel. -/
theorem Teaches.hopCount_bounds {own : NodeId} {maxHops : UInt8} {p : Packet} {e : Route}
    (h : Teaches own maxHops p e) :
    1 ≤ e.hopCount.toNat ∧ e.hopCount.toNat ≤ max 1 (maxHops.toNat - 1) := by
  cases h with
  | source hnear _ _ hcount =>
    have hmore : e.hopCount.toNat = p.hopCount.toNat + 1 := by
      rw [hcount]
      exact toNat_add_one_of_lt (Nat.lt_of_lt_of_le hnear (Nat.sub_le _ 1))
    omega
  | relay _ _ _ _ _ hcount =>
    rw [hcount]
    exact ⟨Nat.le_refl 1, Nat.le_max_left 1 _⟩

namespace Station

/-- A route that a router has after some calls, or in the middle of the next one, when it
has learned the source of a packet or all that the packet teaches. -/
inductive Has (s : Station) (calls : List Call) (e : Route) : Prop
  | after (he : e ∈ (s.run calls).router.table.routes)
  | source (p : Packet) (rssi : Int16) (now : Nat)
      (he : e ∈ ((s.run calls).router.learnSource p rssi now).table.routes)
  | learned (p : Packet) (rssi : Int16) (now : Nat)
      (he : e ∈ ((s.run calls).router.learn p rssi now).table.routes)

/-- In this call a packet of another node goes on the air. -/
def SendsOn (s : Station) (call : Call) (q : Packet) : Prop :=
  ∃ frame ∈ call.aired s, Packet.decode frame = .ok q ∧ q.source ≠ s.router.nodeId

variable {s : Station} {calls : List Call} {call : Call} {p q : Packet} {e : Route}

theorem Has.teaches (hempty : s.router.table.routes = []) (h : s.Has calls e) :
    ∃ p, Teaches s.router.nodeId s.router.maxHops p e := by
  have hbefore : e ∈ (s.run calls).router.table.routes →
      ∃ p, Teaches s.router.nodeId s.router.maxHops p e := by
    intro he
    rcases teaches_of_mem_run he with ⟨p, _, _, hteaches⟩ | hstart
    · exact ⟨p, hteaches⟩
    · rw [hempty] at hstart
      cases hstart
  -- the calls before have changed neither the node nor its limit
  have halike := s.alike_run calls
  rw [← halike.nodeId, ← halike.maxHops] at hbefore ⊢
  cases h with
  | after he => exact hbefore he
  | source p rssi now he =>
    exact (Router.teaches_of_mem_learnSource he).elim (fun hteaches => ⟨p, hteaches⟩) hbefore
  | learned p rssi now he =>
    exact (Router.teaches_of_mem_learn he).elim (fun hteaches => ⟨p, hteaches⟩) hbefore

/-- What is relayed is what was heard in the same call, one hop on. -/
theorem SendsOn.passedOn (h : s.SendsOn call q) :
    ∃ frame rssi now keys p, call = .route frame rssi now keys ∧ Packet.decode frame = .ok p ∧
      p.PassedOn s.router.nodeId s.router.maxHops q := by
  obtain ⟨sent, hair, hsent, hother⟩ := h
  obtain ⟨sentPacket, hencode, hcases⟩ := aired_cases hair
  have hsame : sentPacket = q := by
    rw [Packet.decode_eq_ok_iff_encode.mpr hencode] at hsent
    exact Except.ok.inj hsent
  subst hsame
  rcases hcases with hmade | ⟨frame, rssi, now, keys, p, hcall, hdecode, _, hpassed⟩
  · exact absurd hmade.source hother
  · exact ⟨frame, rssi, now, keys, p, hcall, hdecode, hpassed⟩

theorem not_sendsOn_of_spent {frame : Bytes} {rssi : Int16} {now : Nat} {keys : KeyRing}
    (hdecode : Packet.decode frame = .ok p) (hspent : s.router.maxHops ≤ p.hopCount) :
    ¬s.SendsOn (.route frame rssi now keys) q := by
  intro h
  obtain ⟨_, _, _, _, heard, hcall, hheard, hpassed⟩ := h.passedOn
  cases hcall
  rw [hdecode] at hheard
  cases hheard
  exact UInt8.not_le.mpr hpassed.within hspent

theorem not_passesOn_of_spent {frame : Bytes} {rssi : Int16} {now : Nat} {keys : KeyRing}
    {outcome : RouteOutcome} (hdecode : Packet.decode frame = .ok p)
    (hspent : s.router.maxHops ≤ p.hopCount)
    (houtcome : (s.route frame rssi now keys).1 = .ok outcome) : outcome.passesOn = false := by
  refine Bool.eq_false_iff.mpr fun hpasses => ?_
  obtain ⟨heard, hheard, q, _, hpassed, _⟩ := aired_route houtcome hpasses
  rw [hdecode] at hheard
  cases hheard
  exact UInt8.not_le.mpr hpassed.within hspent

/-- Whatever a router hears and with whatever limit, no count of hops starts over. A route
that it ever has is one hop long at least and, unless it leads to a neighbour, shorter than
the limit. A packet that it relays has one hop more than it was heard with, and the limit
at most; one that has reached the limit is not relayed. Both additions can be made with an
operation that refuses to go beyond a byte, and it never refuses. -/
theorem hops_never_wrap (hempty : s.router.table.routes = []) (calls : List Call) :
    (∀ e, s.Has calls e →
      1 ≤ e.hopCount.toNat ∧ e.hopCount.toNat ≤ max 1 (s.router.maxHops.toNat - 1)) ∧
    (∀ call q, (s.run calls).SendsOn call q →
      ∃ frame rssi now keys p, call = .route frame rssi now keys ∧
        Packet.decode frame = .ok p ∧ q.hopCount.toNat = p.hopCount.toNat + 1 ∧
        1 ≤ q.hopCount.toNat ∧ q.hopCount.toNat ≤ s.router.maxHops.toNat) ∧
    (∀ frame rssi now keys p, Packet.decode frame = .ok p → s.router.maxHops ≤ p.hopCount →
      (∀ q, ¬(s.run calls).SendsOn (.route frame rssi now keys) q) ∧
      ∀ outcome, ((s.run calls).route frame rssi now keys).1 = .ok outcome →
        outcome.passesOn = false) ∧
    (∀ (r : Router) (p : Packet) (rssi : Int16) (now : Nat),
      r.learnSource? p rssi now = some (r.learnSource p rssi now)) ∧
    ∀ (p : Packet) (limit : UInt8), p.spendHop? limit = some (p.spendHop limit) := by
  have hlimit : (s.run calls).router.maxHops = s.router.maxHops := (s.alike_run calls).maxHops
  refine ⟨fun e he => ?_, fun call q hsends => ?_, fun frame rssi now keys p hdecode hspent => ?_,
    Router.learnSource?_eq, Packet.spendHop?_eq⟩
  · obtain ⟨p, hteaches⟩ := he.teaches hempty
    exact hteaches.hopCount_bounds
  · obtain ⟨frame, rssi, now, keys, p, hcall, hdecode, hpassed⟩ := hsends.passedOn
    have hmore : q.hopCount.toNat = p.hopCount.toNat + 1 := hpassed.toNat_hopCount
    have hwithin : p.hopCount.toNat < s.router.maxHops.toNat := by
      rw [← hlimit]
      exact UInt8.lt_iff_toNat_lt.mp hpassed.within
    exact ⟨frame, rssi, now, keys, p, hcall, hdecode, hmore, by omega, by omega⟩
  · rw [← hlimit] at hspent
    exact ⟨fun q => not_sendsOn_of_spent hdecode hspent,
      fun outcome houtcome => not_passesOn_of_spent hdecode hspent houtcome⟩

/-- A router that relays up to the largest number of hops a byte can tell. -/
def farRelay : Station :=
  { learner with router := { learner.router with relayEnabled := true, maxHops := 255 } }

/-- A ping for node 2 by way of everybody that has made this many hops. -/
def farPacket (lastHop : NodeId) (hops : UInt8) : Packet :=
  { namingPacket ⟨7⟩ lastHop with hopCount := hops, nextHop := .broadcast }

def farCall (hops : UInt8) : Call :=
  .route (Packet.sealBody (farPacket ⟨8⟩ hops).body) (-70) 0 learnerKeys

theorem farPacket_sentOn : (farRelay.run [.sweep 0]).SendsOn (farCall 254) (farPacket ⟨9⟩ 255) :=
  ⟨Packet.sealBody (farPacket ⟨9⟩ 255).body, by decide +kernel,
    Packet.decode_eq_ok_iff_encode.mpr (by decide +kernel), by decide⟩

/-- The last hop that a byte can tell is still counted. -/
theorem hops_never_wrap_far :
    farRelay.router.table.routes = [] ∧
      ∃ frame rssi now keys p, farCall 254 = .route frame rssi now keys ∧
        Packet.decode frame = .ok p ∧
        (farPacket ⟨9⟩ 255).hopCount.toNat = p.hopCount.toNat + 1 ∧
        1 ≤ (farPacket ⟨9⟩ 255).hopCount.toNat ∧
        (farPacket ⟨9⟩ 255).hopCount.toNat ≤ farRelay.router.maxHops.toNat :=
  ⟨rfl, (hops_never_wrap rfl [.sweep 0]).2.1 (farCall 254) (farPacket ⟨9⟩ 255) farPacket_sentOn⟩

/-- One hop further the frame is dropped. -/
example : (farCall 255).aired farRelay = [] := by decide +kernel

end Station
end Meshwork
