import Meshwork.Proofs.Station.Working

/-!
# Radios that refuse

A radio that sends and one that refuses are put beside each other, under the same
router. A call sends one frame at most, and whatever it notes it has noted before: the
two runs differ in that frame and in the counters of what was sent, or in nothing.
-/

namespace Meshwork
set_option autoImplicit false

/-- The radio, if its sending runs into this fault from now on. -/
def Radio.faulty (r : Radio) (fault : Option RadioError) : Radio := { r with sendFault := fault }

/-- All counters but those of frames that the radio took. -/
def MeshStats.unsent (stats : MeshStats) : MeshStats :=
  { stats with sent := 0, forwarded := 0, rebroadcast := 0 }

namespace Station

def faulty (s : Station) (fault : Option RadioError) : Station :=
  { s with radio := s.radio.faulty fault }

/-- The station after its radio has taken a frame. -/
def sentBy (s : Station) (frame : Bytes) (stats : MeshStats) : Station :=
  { s with
    radio := { s.radio with outbox := s.radio.outbox ++ [frame] }
    router := { s.router with stats := stats } }

/-- How a call that finds the radio like this ends if the radio sends, and how if it
refuses. -/
inductive Refused {α : Type} (e : RadioError) (r : Radio) :
    Except MeshError α × Station → Except MeshError α × Station → Prop where
  /-- Nothing was to be sent. -/
  | silent (result : Except MeshError α) (s : Station) (hradio : s.radio = r) :
      Refused e r (result, s.faulty none) (result, s.faulty (some e))
  /-- One frame was to be sent, after everything else. -/
  | refused (a : α) (s : Station) (frame : Bytes) (stats : MeshStats) (hradio : s.radio = r)
      (hstats : stats.unsent = s.router.stats.unsent) :
      Refused e r (.ok a, (s.sentBy frame stats).faulty none)
        (.error (.radio e), s.faulty (some e))

variable {α : Type} {e : RadioError} {s : Station} {p : Packet} {keys : KeyRing} {now : Nat}

/-! ## Sending -/

theorem send_faulty_none (s : Station) (frame : Bytes) :
    (s.faulty none).send frame =
      (.ok (),
        (s.sentBy frame { s.router.stats with sent := s.router.stats.sent + 1 }).faulty none) :=
  rfl

theorem send_faulty_some (s : Station) (frame : Bytes) (e : RadioError) :
    (s.faulty (some e)).send frame = (.error (.radio e), s.faulty (some e)) :=
  rfl

theorem refused_transmit (s : Station) (p : Packet) (now : Nat) (e : RadioError) :
    Refused e s.radio ((s.faulty none).transmit p now) ((s.faulty (some e)).transmit p now) := by
  have haddress : ∀ fault, (s.faulty fault).address p = s.address p := fun _ => rfl
  have hrecord : ∀ fault, (s.faulty fault).record p now = (s.record p now).faulty fault :=
    fun _ => rfl
  unfold transmit
  simp only [haddress, hrecord]
  cases (s.address p).encode with
  | error reason => exact .silent _ s rfl
  | ok frame =>
    simp only
    rw [send_faulty_none, send_faulty_some]
    exact .refused _ (s.record p now) frame _ rfl rfl

theorem compose_faulty (s : Station) (fault : Option RadioError) (destination : NodeId)
    (topic : Topic) (payload : Bytes) (keys : KeyRing) :
    (s.faulty fault).compose destination topic payload keys =
      ((s.compose destination topic payload keys).1,
        (s.compose destination topic payload keys).2.faulty fault) := by
  unfold compose
  have hnode : (s.faulty fault).router = s.router := rfl
  have hdraws : (s.faulty fault).draws = s.draws := rfl
  rw [hnode, hdraws]
  rcases Packet.create s.router.nodeId destination topic [] s.draws with ⟨created, draws⟩
  cases created with
  | error reason => rfl
  | ok p =>
    simp only
    rcases sealPayload p payload keys draws with ⟨blob, after⟩
    cases blob with
    | error reason => rfl
    | ok blob =>
      simp only
      split
      · rfl
      · rfl

theorem refused_originate (s : Station) (destination : NodeId) (topic : Topic) (payload : Bytes)
    (now : Nat) (keys : KeyRing) (e : RadioError) :
    Refused e s.radio ((s.faulty none).originate destination topic payload now keys)
      ((s.faulty (some e)).originate destination topic payload now keys) := by
  unfold originate
  rw [compose_faulty, compose_faulty]
  rcases s.compose_cases destination topic payload keys with
    ⟨reason, draws, h⟩ | ⟨id, blob, draws, h⟩
  · rw [h]
    exact .silent _ { s with draws := draws } rfl
  · rw [h]
    exact refused_transmit { s with draws := draws } _ now e

/-! ## Relaying -/

theorem refused_relay (s : Station) (p : Packet) (nextHop : NodeId) (e : RadioError) :
    Refused e s.radio ((s.faulty none).relay p nextHop) ((s.faulty (some e)).relay p nextHop) := by
  have hrouter : ∀ fault, (s.faulty fault).router = s.router := fun _ => rfl
  unfold relay
  simp only [hrouter]
  rcases spendHop_cases p s.router.maxHops with ⟨_, h⟩ | ⟨_, h⟩
  · rw [h]
    exact .silent _ { s with
      router.stats.hopLimitExceeded := s.router.stats.hopLimitExceeded + 1 } rfl
  · rw [h]
    simp only
    split
    · exact .silent _ s rfl
    · rename_i frame _
      rw [send_faulty_none, send_faulty_some]
      simp only
      split
      · exact .refused _ s frame
          { s.router.stats with
            sent := s.router.stats.sent + 1
            rebroadcast := s.router.stats.rebroadcast + 1 } rfl rfl
      · exact .refused _ s frame
          { s.router.stats with
            sent := s.router.stats.sent + 1
            forwarded := s.router.stats.forwarded + 1 } rfl rfl

theorem refused_forward (s : Station) (p : Packet) (e : RadioError) :
    Refused e s.radio ((s.faulty none).forward p) ((s.faulty (some e)).forward p) := by
  have hrouter : ∀ fault, (s.faulty fault).router = s.router := fun _ => rfl
  unfold forward
  simp only [hrouter]
  split
  · exact .silent _ s rfl
  · split
    · exact .silent _ s rfl
    · exact refused_relay s p _ e

/-! ## Delivering and dispatching -/

theorem deliver_faulty (s : Station) (fault : Option RadioError) (p : Packet) (keys : KeyRing) :
    (s.faulty fault).deliver p keys =
      ((s.deliver p keys).1, (s.deliver p keys).2.faulty fault) :=
  rfl

theorem refused_deliverUnicast (s : Station) (p : Packet) (now : Nat) (keys : KeyRing)
    (e : RadioError) :
    Refused e s.radio ((s.faulty none).deliverUnicast p now keys)
      ((s.faulty (some e)).deliverUnicast p now keys) := by
  have hradio := s.deliver_radio p keys
  unfold deliverUnicast
  rw [deliver_faulty, deliver_faulty]
  generalize s.deliver p keys = delivered at hradio ⊢
  rcases delivered with ⟨result, delivered⟩
  change delivered.radio = s.radio at hradio
  cases result with
  | error reason => exact .silent _ delivered hradio
  | ok done =>
    simp only
    cases p.topic.reply? with
    | none => exact .silent _ delivered hradio
    | some reply =>
      have hanswer := refused_originate delivered p.source reply (replyBody p reply) now keys e
      rw [hradio] at hanswer
      simp only
      generalize (delivered.faulty none).originate p.source reply (replyBody p reply) now keys =
        loud at hanswer ⊢
      generalize (delivered.faulty (some e)).originate p.source reply (replyBody p reply) now
        keys = quiet at hanswer ⊢
      cases hanswer with
      | silent result after hafter =>
        cases result with
        | error reason => exact .silent _ after hafter
        | ok id => exact .silent _ after hafter
      | refused id after frame stats hafter hstats =>
        exact .refused _ after frame stats hafter hstats

theorem refused_spread (s : Station) (p : Packet) (keys : KeyRing) (e : RadioError) :
    Refused e s.radio ((s.faulty none).spread p keys) ((s.faulty (some e)).spread p keys) := by
  have hradio := s.deliver_radio p keys
  unfold spread
  rw [deliver_faulty, deliver_faulty]
  generalize s.deliver p keys = delivered at hradio ⊢
  rcases delivered with ⟨result, delivered⟩
  change delivered.radio = s.radio at hradio
  have hrouter : ∀ fault, (delivered.faulty fault).router = delivered.router := fun _ => rfl
  simp only [hrouter]
  split
  · rw [← hradio]
    exact refused_relay delivered p .broadcast e
  · cases result with
    | error reason => exact .silent _ delivered hradio
    | ok done => exact .silent _ delivered hradio

theorem refused_dispatch (s : Station) (p : Packet) (now : Nat) (keys : KeyRing)
    (e : RadioError) :
    Refused e s.radio ((s.faulty none).dispatch p now keys)
      ((s.faulty (some e)).dispatch p now keys) := by
  have hrouter : ∀ fault, (s.faulty fault).router = s.router := fun _ => rfl
  unfold dispatch
  simp only [hrouter]
  split
  · exact .silent _ s rfl
  · split
    · exact refused_deliverUnicast s p now keys e
    · split
      · exact refused_spread s p keys e
      · exact refused_forward s p e

theorem refused_route (s : Station) (frame : Bytes) (rssi : Int16) (now : Nat) (keys : KeyRing)
    (e : RadioError) :
    Refused e s.radio ((s.faulty none).route frame rssi now keys)
      ((s.faulty (some e)).route frame rssi now keys) := by
  have hrouter : ∀ fault, (s.faulty fault).router = s.router := fun _ => rfl
  unfold route
  simp only [hrouter]
  rcases s.router.screen frame rssi now with ⟨result, router⟩
  cases result with
  | error reason => exact .silent _ { s with router := router } rfl
  | ok p => exact refused_dispatch { s with router := router } p now keys e

/-! ## Errors -/

theorem faulty_self (s : Station) : s.faulty s.radio.sendFault = s :=
  rfl

/-- No frame ends in an error where all texts can be sealed, unless the radio has
refused to send. -/
theorem refused_of_route_error {error : MeshError} {frame : Bytes} {rssi : Int16}
    (hseals : keys.provider.SealsAll) (h : (s.route frame rssi now keys).1 = .error error) :
    ∃ e, s.radio.sendFault = some e ∧ error = .radio e := by
  cases hfault : s.radio.sendFault with
  | none =>
    obtain ⟨outcome, hok⟩ := route_ok hfault hseals frame rssi now
    rw [h] at hok
    cases hok
  | some e =>
    obtain ⟨outcome, hok⟩ := route_ok (s := s.faulty none) rfl hseals frame rssi now
    have hrefused := refused_route s frame rssi now keys e
    rw [← hfault, faulty_self] at hrefused
    generalize (s.faulty none).route frame rssi now keys = loud at hok hrefused
    generalize s.route frame rssi now keys = quiet at h hrefused
    cases hrefused with
    | silent result after =>
      change result = _ at h hok
      rw [h] at hok
      cases hok
    | refused outcome after sent stats =>
      exact ⟨e, rfl, (Except.error.inj h).symm⟩

end Station
end Meshwork
