import Meshwork.Proofs.Station.Chains

/-!
# Relays that hold no key

A router tries to deliver a message for everybody before it sends it on, and most of those
that pass a message on cannot open it. What they put on the air, record and learn does not
depend on that: two runs of one router that differ in the key are alike but for what the
application is handed.
-/

namespace Meshwork
set_option autoImplicit false

/-- All counters but those of payloads that were opened or could not be. -/
def MeshStats.unopened (stats : MeshStats) : MeshStats :=
  { stats with delivered := 0, unauthenticated := 0 }

/-- All that there is to a router but what its application was handed. -/
def Router.unopened (r : Router) : Router := { r with stats := r.stats.unopened, handed := [] }

namespace Station

def unopened (s : Station) : Station := { s with router := s.router.unopened }

variable {s : Station} {p : Packet} {frame : Bytes}

@[simp] theorem unopened_radio (s : Station) : s.unopened.radio = s.radio := rfl

@[simp] theorem unopened_relayEnabled (s : Station) :
    s.unopened.router.relayEnabled = s.router.relayEnabled := rfl

/-! ## Sending on -/

theorem send_unopened (s : Station) (frame : Bytes) :
    s.unopened.send frame = ((s.send frame).1, (s.send frame).2.unopened) := by
  unfold send
  rw [unopened_radio]
  cases s.radio.send frame with
  | error e => rfl
  | ok radio => rfl

/-- A relay looks at nothing that has to do with deliveries. -/
theorem relay_unopened (s : Station) (p : Packet) (nextHop : NodeId) :
    s.unopened.relay p nextHop = ((s.relay p nextHop).1, (s.relay p nextHop).2.unopened) := by
  have hhops : s.unopened.router.maxHops = s.router.maxHops := rfl
  have hnode : s.unopened.router.nodeId = s.router.nodeId := rfl
  unfold relay
  rw [hhops, hnode]
  rcases spendHop_cases p s.router.maxHops with ⟨_, h⟩ | ⟨_, h⟩
  · rw [h]
    rfl
  · rw [h]
    simp only
    split
    · rfl
    · rename_i frame _
      rw [send_unopened]
      rcases s.send frame with ⟨result, sent⟩
      cases result with
      | error e => rfl
      | ok done =>
        simp only
        split
        · rfl
        · rfl

/-! ## Delivering to everybody -/

/-- Unless it takes a route away, a delivery is seen by the application only. -/
theorem deliver_unopened (hbye : p.topic ≠ .bye) (s : Station) (keys : KeyRing) :
    (s.deliver p keys).2.unopened = s.unopened := by
  unfold deliver Router.deliver Router.heedBye
  rw [if_neg hbye]
  simp only
  split
  · rfl
  · split
    · rfl
    · rfl

/-- What becomes of a message for everybody, as far as no key has to do with it. -/
theorem spread_unopened (hbye : p.topic ≠ .bye) (s : Station) (keys : KeyRing) :
    (s.spread p keys).2.unopened =
        (if s.router.relayEnabled then (s.unopened.relay p .broadcast).2 else s.unopened) ∧
      (s.router.relayEnabled = true →
        (s.spread p keys).1 = (s.unopened.relay p .broadcast).1) := by
  have hdelivered := deliver_unopened hbye s keys
  unfold spread
  generalize s.deliver p keys = delivered at hdelivered ⊢
  rcases delivered with ⟨result, delivered⟩
  change delivered.unopened = s.unopened at hdelivered
  have hrelays : delivered.router.relayEnabled = s.router.relayEnabled := by
    rw [← unopened_relayEnabled delivered, hdelivered, unopened_relayEnabled]
  simp only
  rw [hrelays, ← hdelivered, relay_unopened]
  cases s.router.relayEnabled with
  | true => exact ⟨rfl, fun _ => rfl⟩
  | false =>
    refine ⟨?_, fun h => nomatch h⟩
    cases result with
    | error reason => rfl
    | ok done => rfl

/-! ## Two keys -/

/-- Two calls have come to the same but for what the application was handed, and to the
same altogether if the packet was for one node. -/
structure Agrees (p : Packet) (relays : Bool)
    (one other : Except MeshError RouteOutcome × Station) : Prop where
  station : one.2.unopened = other.2.unopened
  outcome : relays = true → one.1 = other.1
  unicast : p.isBroadcast = false → one = other

theorem Agrees.refl {relays : Bool} (result : Except MeshError RouteOutcome × Station) :
    Agrees p relays result result :=
  ⟨rfl, fun _ => rfl, fun _ => rfl⟩

theorem agrees_dispatch (hbye : p.topic ≠ .bye) (haway : p.destination ≠ s.router.nodeId)
    (now : Nat) (keys keys' : KeyRing) :
    Agrees p s.router.relayEnabled (s.dispatch p now keys) (s.dispatch p now keys') := by
  unfold dispatch
  rw [if_neg haway, if_neg haway]
  split
  · exact .refl _
  cases hall : p.isBroadcast with
  | false => exact .refl _
  | true =>
    obtain ⟨hstation, houtcome⟩ := spread_unopened hbye s keys
    obtain ⟨hstation', houtcome'⟩ := spread_unopened hbye s keys'
    refine ⟨hstation.trans hstation'.symm, fun hrelays => ?_, fun hone => ?_⟩
    · exact (houtcome hrelays).trans (houtcome' hrelays).symm
    · rw [hall] at hone
      cases hone

theorem agrees_route (hdecode : Packet.decode frame = .ok p) (hbye : p.topic ≠ .bye)
    (haway : p.destination ≠ s.router.nodeId) (rssi : Int16) (now : Nat) (keys keys' : KeyRing) :
    Agrees p s.router.relayEnabled (s.route frame rssi now keys)
      (s.route frame rssi now keys') := by
  have halike := s.router.alike_screen frame rssi now
  unfold route
  rcases hscreen : s.router.screen frame rssi now with ⟨result, router⟩
  rw [hscreen] at halike
  cases result with
  | error reason => exact .refl _
  | ok q =>
    obtain ⟨hheard, _⟩ := Router.screen_eq_ok_iff.mp (congrArg Prod.fst hscreen)
    rw [hdecode] at hheard
    cases hheard
    rw [← halike.relayEnabled]
    exact agrees_dispatch (s := { s with router := router }) hbye (halike.nodeId ▸ haway) now
      keys keys'

/-- Whatever keys a router may hold, and also without one: of a frame that is not for this
node alone and says no goodbye it hands the same frames to its radio, records the same and
learns the same. The counters differ in what was delivered and what could not be opened at
most, and where relaying is switched on it answers the same. Of a message for one other
node nothing differs at all. -/
theorem route_keyless (hdecode : Packet.decode frame = .ok p) (hbye : p.topic ≠ .bye)
    (haway : p.destination ≠ s.router.nodeId) (rssi : Int16) (now : Nat) (keys keys' : KeyRing) :
    let one := s.route frame rssi now keys
    let other := s.route frame rssi now keys'
    one.2.radio = other.2.radio ∧ one.2.router.tracker = other.2.router.tracker ∧
      one.2.router.table = other.2.router.table ∧
      one.2.router.stats.unopened = other.2.router.stats.unopened ∧
      (s.router.relayEnabled = true → one.1 = other.1) ∧
      (p.isBroadcast = false → one = other) := by
  intro one other
  have hagrees : Agrees p s.router.relayEnabled one other :=
    agrees_route hdecode hbye haway rssi now keys keys'
  have hradio : one.2.unopened.radio = other.2.unopened.radio := by rw [hagrees.station]
  have hrouter : one.2.router.unopened = other.2.router.unopened :=
    congrArg Station.router hagrees.station
  have htracker : one.2.router.unopened.tracker = other.2.router.unopened.tracker := by
    rw [hrouter]
  have htable : one.2.router.unopened.table = other.2.router.unopened.table := by rw [hrouter]
  have hstats : one.2.router.unopened.stats = other.2.router.unopened.stats := by rw [hrouter]
  exact ⟨hradio, htracker, htable, hstats, hagrees.outcome, hagrees.unicast⟩

/-- A message for everybody, for whoever has the key. -/
def calledPacket : Packet :=
  let header : Packet := .fresh ⟨1⟩ .broadcast (.application 0x20) [] 9
  { header with payload := CryptoProvider.label chainKey header.associatedData ++ [4, 2] }

theorem calledPacket_fits : calledPacket.Fits := ⟨rfl, by decide +kernel⟩

/-- One router opens the message, another that has no key cannot, and both send the same
frame on. -/
theorem route_keyless_called :
    let one := (chainStation ⟨5⟩).route calledPacket.frame 0 5 chainKeys
    let other := (chainStation ⟨5⟩).route calledPacket.frame 0 5 { provider := .software }
    (one.2.router.handed.length = 1 ∧ other.2.router.handed.length = 0 ∧
        one.2.radio.outbox.length = 1) ∧
      one.2.radio = other.2.radio ∧ one.1 = other.1 := by
  have hnew : (chainStation ⟨5⟩).router.tracker.contains calledPacket.key 5 = false := rfl
  have hdispatch := route_fresh calledPacket_fits.decode rfl hnew (by decide) 0
  have hkeyless := route_keyless (s := chainStation ⟨5⟩) calledPacket_fits.decode (by decide)
    (by decide) 0 5 chainKeys { provider := .software }
  simp only [hdispatch] at hkeyless ⊢
  obtain ⟨hradio, _, _, _, houtcome, _⟩ := hkeyless
  exact ⟨⟨rfl, rfl, rfl⟩, hradio, houtcome rfl⟩

end Station
end Meshwork
