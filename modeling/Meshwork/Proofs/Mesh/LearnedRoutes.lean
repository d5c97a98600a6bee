import Meshwork.Proofs.Station.Conduct
import Meshwork.Proofs.Walk

/-!
# Routes that frames have travelled

Any number of routers, one for each identifier, and no frames but theirs. A frame
may reach any of them at any time after it has gone on the air, as often as it
likes. What a header says is true then: the frame has made so many hops since its
source sent it, and the last of them ends at the node that it names.
-/

namespace Meshwork
set_option autoImplicit false

/-- A run of routers. In each move one of them is called. -/
structure Airwaves where
  start : NodeId → Station
  node : Nat → NodeId
  call : Nat → Station.Call

namespace Airwaves

/-- A router before the move with this number. -/
def station (w : Airwaves) : Nat → NodeId → Station
  | 0, n => w.start n
  | i + 1, n => if n = w.node i then (w.call i).perform (w.station i n) else w.station i n

structure Starts (w : Airwaves) : Prop where
  nodeId : ∀ n, (w.start n).router.nodeId = n
  routes : ∀ n, (w.start n).router.table.routes = []

def Sends (w : Airwaves) (i : Nat) (u : NodeId) (frame : Bytes) : Prop :=
  w.node i = u ∧ frame ∈ (w.call i).aired (w.station i u)

def Receives (w : Airwaves) (i : Nat) (v : NodeId) (frame : Bytes) : Prop :=
  w.node i = v ∧ ∃ rssi now keys, w.call i = .route frame rssi now keys

/-- Nothing is received but what one of the routers has sent before. -/
def Genuine (w : Airwaves) : Prop :=
  ∀ i v frame, w.Receives i v frame → ∃ j u, j < i ∧ w.Sends j u frame

/-- One router has received a frame that another has transmitted. -/
def Heard (w : Airwaves) (i : Nat) (u v : NodeId) : Prop :=
  ∃ j k frame, j < k ∧ k < i ∧ w.Sends j u frame ∧ w.Receives k v frame

/-- A header that is true of the way of its packet. -/
structure Truthful (w : Airwaves) (i : Nat) (u : NodeId) (p : Packet) : Prop where
  lastHop : p.lastHop = u
  walk : Walk (w.Heard i) p.hopCount.toNat p.source u
  original : p.hopCount = 0 ↔ p.source = p.lastHop

variable {w : Airwaves} {i j : Nat} {u v n : NodeId} {frame : Bytes} {p q : Packet} {e : Route}

theorem station_succ (w : Airwaves) (i : Nat) (n : NodeId) :
    w.station (i + 1) n =
      if n = w.node i then (w.call i).perform (w.station i n) else w.station i n :=
  rfl

theorem alike_station (w : Airwaves) (i : Nat) (n : NodeId) :
    (w.start n).router.Alike (w.station i n).router := by
  induction i with
  | zero => exact Router.Alike.refl _
  | succ i ih =>
    rw [station_succ]
    split
    · exact ih.trans (Station.alike_perform _ (w.call i))
    · exact ih

theorem nodeId_station (hstart : w.Starts) (i : Nat) (n : NodeId) :
    (w.station i n).router.nodeId = n :=
  (w.alike_station i n).nodeId.trans (hstart.nodeId n)

theorem Heard.mono (hij : i ≤ j) (h : w.Heard i u v) : w.Heard j u v := by
  obtain ⟨k, l, frame, hkl, hli, hsends, hreceives⟩ := h
  exact ⟨k, l, frame, hkl, Nat.lt_of_lt_of_le hli hij, hsends, hreceives⟩

theorem Truthful.mono (hij : i ≤ j) (h : w.Truthful i u p) : w.Truthful j u p :=
  ⟨h.lastHop, h.walk.mono fun _ _ => Heard.mono hij, h.original⟩

/-! ## What is on the air -/

/-- One more hop of a packet that a router has heard and not sent itself. -/
theorem Truthful.passedOn {maxHops : UInt8} (h : w.Truthful i u p) (hheard : w.Heard i u v)
    (hsource : p.source ≠ v) (hpassed : p.PassedOn v maxHops q) : w.Truthful i v q := by
  have hcount := hpassed.toNat_hopCount
  obtain ⟨nextHop, rfl⟩ := hpassed.same
  change (p.hopCount + 1).toNat = p.hopCount.toNat + 1 at hcount
  refine ⟨rfl, ?_, ?_⟩
  · change Walk (w.Heard i) (p.hopCount + 1).toNat p.source v
    rw [hcount]
    exact h.walk.step hheard
  · constructor
    · intro hzero
      have hzero : (p.hopCount + 1).toNat = 0 := by
        rw [show p.hopCount + 1 = 0 from hzero]
        rfl
      omega
    · intro hown
      exact absurd hown hsource

theorem Truthful.madeBy (h : q.MadeBy u) : w.Truthful i u q := by
  refine ⟨h.lastHop, ?_, ?_⟩
  · rw [h.hopCount, h.source]
    exact .stay u
  · rw [h.source, h.lastHop, h.hopCount]
    exact ⟨fun _ => rfl, fun _ => rfl⟩

/-- A frame on the air is a message of its sender, or what its sender has received,
one hop on. -/
theorem sends_cases (hstart : w.Starts) (h : w.Sends i u frame) :
    ∃ q, q.encode = .ok frame ∧ (q.MadeBy u ∨
      ∃ heard p, w.Receives i u heard ∧ Packet.decode heard = .ok p ∧ p.source ≠ u ∧
        p.PassedOn u (w.station i u).router.maxHops q) := by
  obtain ⟨hmover, hmem⟩ := h
  obtain ⟨q, hencode, hq⟩ := Station.aired_cases hmem
  rw [nodeId_station hstart i u] at hq
  refine ⟨q, hencode, hq.imp_right ?_⟩
  rintro ⟨heard, rssi, now, keys, p, hcall, hdecode, hsource, hpassed⟩
  exact ⟨heard, p, ⟨hmover, rssi, now, keys, hcall⟩, hdecode, hsource, hpassed⟩

/-- Every frame that goes on the air says the truth. The induction is on the moves,
as a relay speaks of what was sent before. -/
theorem truthful_of_sends (hstart : w.Starts) (hgenuine : w.Genuine)
    (h : w.Sends i u frame) (hdecode : Packet.decode frame = .ok p) :
    w.Truthful (i + 1) u p := by
  induction i using Nat.strong_induction_on generalizing u frame p with
  | _ i ih =>
    obtain ⟨q, hencode, hq⟩ := sends_cases hstart h
    have hread := Packet.decode_eq_ok_iff_encode.mpr hencode
    obtain rfl : p = q := Except.ok.inj (hdecode.symm.trans hread)
    rcases hq with hmade | ⟨heard, before, hreceives, hbefore, hsource, hpassed⟩
    · exact Truthful.madeBy hmade
    · obtain ⟨j, sender, hji, hsends⟩ := hgenuine i u heard hreceives
      have htrue := ih j hji hsends hbefore
      have hheard : w.Heard (i + 1) sender u :=
        ⟨j, i, heard, hji, Nat.lt_succ_self i, hsends, hreceives⟩
      exact (htrue.mono (by omega)).passedOn hheard hsource hpassed

/-! ## What the routers learn -/

/-- A route that frames have gone the other way, hop by hop. -/
structure Travelled (w : Airwaves) (i : Nat) (n : NodeId) (e : Route) : Prop where
  positive : 1 ≤ e.hopCount.toNat
  walk : Walk (w.Heard i) (e.hopCount.toNat - 1) e.destination e.nextHop
  last : w.Heard i e.nextHop n
  direct : e.hopCount = 1 ↔ e.nextHop = e.destination

theorem Travelled.mono (hij : i ≤ j) (h : w.Travelled i n e) : w.Travelled j n e :=
  ⟨h.positive, h.walk.mono fun _ _ => Heard.mono hij, h.last.mono hij, h.direct⟩

/-- What a truthful header teaches has been travelled. -/
theorem Truthful.travelled {maxHops : UInt8} (h : w.Truthful i u p) (hheard : w.Heard i u n)
    (hteaches : Teaches n maxHops p e) : w.Travelled i n e := by
  cases hteaches with
  | source hnear hdestination hnext hcount =>
    have hhops : e.hopCount.toNat = p.hopCount.toNat + 1 := by
      rw [hcount, toNat_add_one_of_lt (Nat.lt_of_lt_of_le hnear (Nat.sub_le _ 1))]
    refine ⟨by omega, ?_, ?_, ?_⟩
    · rw [hhops, hdestination, hnext, h.lastHop]
      exact h.walk
    · rw [hnext, h.lastHop]
      exact hheard
    · rw [hdestination, hnext, eq_comm (a := p.lastHop), ← h.original]
      rw [← UInt8.toNat_inj, ← UInt8.toNat_inj, hhops, UInt8.toNat_one, UInt8.toNat_zero]
      omega
  | relay hsource hown hnamed hdestination hnext hcount =>
    refine ⟨?_, ?_, ?_, ?_⟩
    · rw [hcount, UInt8.toNat_one]
    · rw [hcount, hdestination, hnext]
      exact .stay p.lastHop
    · rw [hnext, h.lastHop]
      exact hheard
    · rw [hcount, hdestination, hnext]
      exact ⟨fun _ => rfl, fun _ => rfl⟩

/-- Whatever the routers of a network do, and whoever hears whatever they send: each
route that a router has at any time is of at least one hop, frames have gone from
its destination to its next hop in one hop less and from there to the router, and
the next hop is the destination if and only if the route says one hop. -/
theorem route_travelled (hstart : w.Starts) (hgenuine : w.Genuine)
    (he : e ∈ (w.station i n).router.table.routes) : w.Travelled i n e := by
  induction i with
  | zero =>
    change e ∈ (w.start n).router.table.routes at he
    rw [hstart.routes] at he
    cases he
  | succ i ih =>
    rw [station_succ] at he
    split at he
    · rename_i hmover
      rcases Station.teaches_of_mem_perform he with
        ⟨frame, rssi, now, keys, p, hcall, hdecode, _, hteaches⟩ | hbefore
      · have hreceives : w.Receives i n frame := ⟨hmover.symm, rssi, now, keys, hcall⟩
        obtain ⟨j, u, hji, hsends⟩ := hgenuine i n frame hreceives
        have hheard : w.Heard (i + 1) u n :=
          ⟨j, i, frame, hji, Nat.lt_succ_self i, hsends, hreceives⟩
        have htrue := truthful_of_sends hstart hgenuine hsends hdecode
        rw [nodeId_station hstart] at hteaches
        exact (htrue.mono (by omega)).travelled hheard hteaches
      · exact (ih hbefore).mono (Nat.le_succ i)
    · exact (ih he).mono (Nat.le_succ i)

def sampleNode (n : NodeId) : Station where
  router := .create (.standard n)
  radio := {}
  draws := { source := fun _ _ => [] }

/-- Keys of a provider that leaves texts as they are. -/
def sampleKeys : KeyRing where
  provider := { CryptoProvider.software with sealText := fun _ _ text draws => (.ok text, draws) }
  key := some ⟨Bytes.block 32 []⟩

/-- A ping of node 1 to everybody. -/
def firstFrame : Bytes :=
  [0, 0, 0, 1, 255, 255, 255, 255, 1, 0, 0, 0, 0, 0, 0, 0, 0, 1, 255, 255, 255, 255, 0,
   121, 74, 41, 61]

/-- The same ping as node 2, which cannot read it, sends it on. -/
def secondFrame : Bytes :=
  [0, 0, 0, 1, 255, 255, 255, 255, 1, 0, 0, 0, 0, 1, 0, 0, 0, 2, 255, 255, 255, 255, 0,
   16, 28, 48, 173]

/-- Node 2 hears node 1, and node 3 hears node 2. -/
def sampleWaves : Airwaves where
  start := sampleNode
  node
    | 0 => ⟨1⟩
    | 1 => ⟨2⟩
    | _ => ⟨3⟩
  call
    | 0 => .originate .broadcast .ping [] 0 sampleKeys
    | 1 => .route firstFrame (-60) 1 { provider := .software }
    | 2 => .route secondFrame (-70) 2 { provider := .software }
    | _ => .sweep 2

theorem sampleWaves_sends :
    sampleWaves.Sends 0 ⟨1⟩ firstFrame ∧ sampleWaves.Sends 1 ⟨2⟩ secondFrame :=
  ⟨⟨rfl, by decide +kernel⟩, ⟨rfl, by decide +kernel⟩⟩

theorem sampleWaves_genuine : sampleWaves.Genuine := by
  rintro i v frame ⟨_, rssi, now, keys, hcall⟩
  match i with
  | 0 => cases hcall
  | 1 =>
    cases hcall
    exact ⟨0, ⟨1⟩, by omega, sampleWaves_sends.1⟩
  | 2 =>
    cases hcall
    exact ⟨1, ⟨2⟩, by omega, sampleWaves_sends.2⟩
  | _ + 3 => cases hcall

/-- Node 3 reaches node 1 through node 2. -/
theorem route_travelled_twoHops :
    (⟨⟨1⟩, ⟨2⟩, 2, -70, 2⟩ : Route) ∈ (sampleWaves.station 3 ⟨3⟩).router.table.routes ∧
      sampleWaves.Travelled 3 ⟨3⟩ ⟨⟨1⟩, ⟨2⟩, 2, -70, 2⟩ := by
  have hroute : (⟨⟨1⟩, ⟨2⟩, 2, -70, 2⟩ : Route) ∈
      (sampleWaves.station 3 ⟨3⟩).router.table.routes := by
    decide +kernel
  exact ⟨hroute, route_travelled ⟨fun _ => rfl, fun _ => rfl⟩ sampleWaves_genuine hroute⟩

end Airwaves
end Meshwork
