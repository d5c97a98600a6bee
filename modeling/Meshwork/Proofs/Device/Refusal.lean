import Meshwork.Proofs.Device.Frames
import Meshwork.Proofs.Station.Refusal

/-!
# Devices whose radio refuses

A device is the same after a call whether its radio took the frame of that call or
refused it, but for the radio itself and the counters of frames sent: what a frame
changes is changed before the answer goes out, results are stored after a refusal as
they are without one, and a goodbye that nobody hears is a goodbye.
-/

namespace Meshwork
set_option autoImplicit false

namespace Device

def faulty (d : Device) (fault : Option RadioError) : Device :=
  { d with radio := d.radio.faulty fault }

/-- The same device with another radio and other counters. -/
def onAir (d : Device) (radio : Radio) (stats : MeshStats) : Device :=
  { d with radio := radio, router := { d.router with stats := stats } }

/-- How a call that finds the radio like this ends if the radio sends, and how if it
refuses. -/
structure Refused {α : Type} (e : RadioError) (r : Radio)
    (loud quiet : Except MeshError α × Device × Draws) : Prop where
  /-- The radio that refuses has taken nothing. -/
  refusing : quiet.2.1.radio = r.faulty (some e)
  /-- The radio that sends has taken one frame at most. Nothing else differs but the
  counters of frames sent. -/
  sending : ∃ frames stats, frames.length ≤ 1 ∧
    stats.unsent = quiet.2.1.router.stats.unsent ∧
    loud.2.1 = quiet.2.1.onAir { r.faulty none with outbox := r.outbox ++ frames } stats
  draws : quiet.2.2 = loud.2.2
  result : quiet.1 = loud.1 ∨ quiet.1 = .error (.radio e)

variable {α β : Type} {e : RadioError} {r : Radio} {d : Device} {now : UInt64} {draws : Draws}
variable {loud quiet : Except MeshError α × Device × Draws}

/-- The last part of handling a frame: the application is told. -/
def tell (x : Except MeshError α × Device × Draws) : Except MeshError α × Device × Draws :=
  match x.2.1.emitEvents with
  | (.error e, d) => (.error e, d, x.2.2)
  | (.ok (), d) => (x.1, d, x.2.2)

/-! ## What does not look at the air -/

theorem persistMembership_onAir (d : Device) (radio : Radio) (stats : MeshStats) :
    (d.onAir radio stats).persistMembership =
      (d.persistMembership.1, d.persistMembership.2.onAir radio stats) := by
  unfold persistMembership onAir
  simp only
  rcases d.keys.flush d.storage with ⟨result, storage⟩
  cases result with
  | error e => rfl
  | ok done =>
    simp only
    rcases storage.write Storage.inclusionState [d.inclusion.state.toByte] with ⟨result, storage⟩
    cases result with
    | error e => rfl
    | ok done => rfl

theorem emitEvents_onAir (d : Device) (radio : Radio) (stats : MeshStats) :
    (d.onAir radio stats).emitEvents =
      (d.emitEvents.1, d.emitEvents.2.onAir radio stats) := by
  have hinclusion : (d.onAir radio stats).inclusion = d.inclusion := rfl
  unfold emitEvents
  rw [hinclusion]
  rcases d.inclusion.drain with ⟨events, inclusion⟩
  cases events with
  | nil => rfl
  | cons event events =>
    exact persistMembership_onAir
      { d with
        inclusion := inclusion
        notified := if d.hasInclusionHandler then d.notified ++ event :: events else d.notified }
      radio stats

namespace Refused

/-- Nothing is sent, and nobody asks for the fault of the radio. -/
theorem silent (result : Except MeshError α) (d : Device) (draws : Draws) :
    Refused e d.radio (result, d.faulty none, draws) (result, d.faulty (some e), draws) where
  refusing := rfl
  sending := ⟨[], d.router.stats, Nat.zero_le 1, rfl, by rw [List.append_nil]; rfl⟩
  draws := rfl
  result := Or.inl rfl

/-- Another result that keeps errors changes nothing. -/
theorem map (h : Refused e r loud quiet) (f : Except MeshError α → Except MeshError β)
    (hf : ∀ error, f (.error error) = .error error) :
    Refused e r (f loud.1, loud.2) (f quiet.1, quiet.2) where
  refusing := h.refusing
  sending := h.sending
  draws := h.draws
  result := by
    rcases h.result with hsame | herror
    · exact Or.inl (congrArg f hsame)
    · exact Or.inr ((congrArg f herror).trans (hf _))

/-- Telling the application comes after the answer, and its errors come first. -/
theorem tell (h : Refused e r loud quiet) : Refused e r (tell loud) (tell quiet) := by
  rcases loud with ⟨loudResult, loud, drawn⟩
  rcases quiet with ⟨quietResult, quiet, drawn'⟩
  obtain ⟨hrefusing, ⟨frames, stats, hone, hstats, hloud⟩, hdraws, hresult⟩ := h
  simp only at hrefusing hstats hloud hdraws hresult
  obtain ⟨storage, hemit⟩ := quiet.emitEvents_eq
  unfold Device.tell
  simp only
  rw [hloud, emitEvents_onAir, hdraws]
  rcases hemitted : quiet.emitEvents with ⟨told, after⟩
  rw [hemitted] at hemit
  change after = _ at hemit
  have hradio : after.radio = r.faulty (some e) := by
    rw [hemit]
    exact hrefusing
  have hafter : stats.unsent = after.router.stats.unsent := by
    rw [hemit]
    exact hstats
  cases told with
  | error error =>
    exact ⟨hradio, ⟨frames, stats, hone, hafter, rfl⟩, rfl, Or.inl rfl⟩
  | ok done =>
    exact ⟨hradio, ⟨frames, stats, hone, hafter, rfl⟩, rfl, hresult⟩

end Refused

/-! ## What goes on the air -/

theorem refused_atStation (d : Device) (draws : Draws)
    (work : Station → Except MeshError α × Station) (h : ∀ s : Station,
      Station.Refused e s.radio (work (s.faulty none)) (work (s.faulty (some e)))) :
    Refused e d.radio ((d.faulty none).atStation draws work)
      ((d.faulty (some e)).atStation draws work) := by
  have hwork := h { router := d.router, radio := d.radio, draws := draws }
  have hstation : ∀ fault, (d.faulty fault).atStation draws work =
      ((work (Station.faulty { router := d.router, radio := d.radio, draws := draws } fault)).1,
        { d with
          router := (work (Station.faulty
            { router := d.router, radio := d.radio, draws := draws } fault)).2.router
          radio := (work (Station.faulty
            { router := d.router, radio := d.radio, draws := draws } fault)).2.radio },
        (work (Station.faulty
          { router := d.router, radio := d.radio, draws := draws } fault)).2.draws) :=
    fun _ => rfl
  rw [hstation, hstation]
  generalize work (Station.faulty { router := d.router, radio := d.radio, draws := draws } none) =
    loud at hwork ⊢
  generalize work (Station.faulty { router := d.router, radio := d.radio, draws := draws }
    (some e)) = quiet at hwork ⊢
  cases hwork with
  | silent result s hradio =>
    change s.radio = d.radio at hradio
    rw [← hradio]
    exact Refused.silent result { d with router := s.router, radio := s.radio } s.draws
  | refused a s frame stats hradio hstats =>
    change s.radio = d.radio at hradio
    rw [← hradio]
    exact
      { refusing := rfl
        sending := ⟨[frame], stats, Nat.le_refl 1, hstats, rfl⟩
        draws := rfl
        result := Or.inr rfl }

theorem refused_sendReply (d : Device) (reply : Option Packet) (now : UInt64) (draws : Draws)
    (e : RadioError) :
    Refused e d.radio ((d.faulty none).sendReply reply now draws)
      ((d.faulty (some e)).sendReply reply now draws) := by
  cases reply with
  | none => exact Refused.silent _ d draws
  | some p =>
    have hsent := refused_atStation d draws (·.transmit p now.toNat) fun s =>
      Station.refused_transmit s p now.toNat e
    have hmap : ∀ d : Device, d.sendReply (some p) now draws =
        ((d.atStation draws (·.transmit p now.toNat)).1.map fun _ => RouteOutcome.deliveredLocally,
          (d.atStation draws (·.transmit p now.toNat)).2) := by
      intro d
      unfold sendReply
      simp only
      rcases d.atStation draws (·.transmit p now.toNat) with ⟨result, after, drawn⟩
      cases result with
      | error e => rfl
      | ok id => rfl
    rw [hmap, hmap]
    exact hsent.map _ fun _ => rfl

theorem refused_handleInclusion (d : Device) (p : Packet) (now : UInt64) (draws : Draws)
    (e : RadioError) :
    Refused e d.radio ((d.faulty none).handleInclusion p now draws)
      ((d.faulty (some e)).handleInclusion p now draws) := by
  have hparty : ∀ fault, (d.faulty fault).asParty draws (·.handle p now) =
      ((d.asParty draws (·.handle p now)).1,
        (d.asParty draws (·.handle p now)).2.1.faulty fault,
        (d.asParty draws (·.handle p now)).2.2) :=
    fun _ => rfl
  have hradio : (d.asParty draws (·.handle p now)).2.1.radio = d.radio := rfl
  have hnode : ∀ fault, (d.faulty fault).nodeId = d.nodeId := fun _ => rfl
  unfold handleInclusion
  rw [hparty, hparty, hnode, hnode]
  generalize d.asParty draws (·.handle p now) = handled at hradio ⊢
  rcases handled with ⟨result, after, drawn⟩
  change after.radio = d.radio at hradio
  split
  · exact Refused.silent _ d draws
  · rw [← hradio]
    cases result with
    | error reason => exact Refused.silent _ after drawn
    | ok reply => exact refused_sendReply after reply now drawn e

theorem refused_handlePacket (d : Device) (p : Packet) (now : UInt64) (draws : Draws)
    (e : RadioError) :
    Refused e d.radio ((d.faulty none).handlePacket p now draws)
      ((d.faulty (some e)).handlePacket p now draws) := by
  unfold handlePacket
  split
  · exact refused_handleInclusion d p now draws e
  · exact refused_atStation d draws (·.dispatch p now.toNat d.keys) fun s =>
      Station.refused_dispatch s p now.toNat d.keys e

/-! ## Calls -/

theorem refused_processFrame (d : Device) (frame : Bytes) (now : UInt64) (draws : Draws)
    (e : RadioError) :
    Refused e d.radio ((d.faulty none).processFrame frame now draws)
      ((d.faulty (some e)).processFrame frame now draws) := by
  have hscreen : ∀ fault,
      (d.faulty fault).router.screen frame (d.faulty fault).radio.rssi now.toNat =
        d.router.screen frame d.radio.rssi now.toNat := fun _ => rfl
  unfold processFrame
  rw [hscreen, hscreen]
  rcases d.router.screen frame d.radio.rssi now.toNat with ⟨screened, router⟩
  cases screened with
  | error reason => exact Refused.silent _ { d with router := router } draws
  | ok p =>
    exact (refused_handlePacket { d with router := router } p now draws e).tell

theorem refused_send (d : Device) (destination : NodeId) (topic : Topic) (payload : Bytes)
    (now : UInt64) (draws : Draws) (e : RadioError) :
    Refused e d.radio ((d.faulty none).send destination topic payload now draws)
      ((d.faulty (some e)).send destination topic payload now draws) := by
  have hstate : ∀ fault, (d.faulty fault).state = d.state := fun _ => rfl
  unfold send
  rw [hstate, hstate]
  split
  · exact Refused.silent _ d draws
  · split
    · exact Refused.silent _ d draws
    · split
      · exact Refused.silent _ d draws
      · exact refused_atStation d draws (·.originate destination topic payload now.toNat d.keys)
          fun s => Station.refused_originate s destination topic payload now.toNat d.keys e

theorem requestInclusion_eq {p : Packet} {after : Device} {drawn : Draws}
    (h : d.asParty draws (·.request now) = (.ok p, after, drawn)) :
    d.requestInclusion now draws =
      ((after.atStation drawn (·.transmit p now.toNat)).1.map fun _ => (),
        (after.atStation drawn (·.transmit p now.toNat)).2) := by
  unfold requestInclusion
  rw [h]
  simp only
  rcases after.atStation drawn (·.transmit p now.toNat) with ⟨result, sent, rest⟩
  cases result with
  | error e => rfl
  | ok id => rfl

theorem refused_requestInclusion (d : Device) (now : UInt64) (draws : Draws) (e : RadioError) :
    Refused e d.radio ((d.faulty none).requestInclusion now draws)
      ((d.faulty (some e)).requestInclusion now draws) := by
  have hparty : ∀ fault, (d.faulty fault).asParty draws (·.request now) =
      ((d.asParty draws (·.request now)).1,
        (d.asParty draws (·.request now)).2.1.faulty fault,
        (d.asParty draws (·.request now)).2.2) :=
    fun _ => rfl
  have hradio : (d.asParty draws (·.request now)).2.1.radio = d.radio := rfl
  generalize d.asParty draws (·.request now) = requested at hparty hradio
  rcases requested with ⟨result, after, drawn⟩
  change after.radio = d.radio at hradio
  rw [← hradio]
  cases result with
  | error error =>
    unfold requestInclusion
    rw [hparty, hparty]
    exact Refused.silent _ after drawn
  | ok p =>
    rw [requestInclusion_eq (hparty none), requestInclusion_eq (hparty (some e))]
    exact (refused_atStation after drawn (·.transmit p now.toNat) fun s =>
      Station.refused_transmit s p now.toNat e).map _ fun _ => rfl

/-- A goodbye that nobody hears is a goodbye. -/
theorem refused_leave (d : Device) (now : UInt64) (draws : Draws) (e : RadioError) :
    Refused e d.radio ((d.faulty none).leave now draws) ((d.faulty (some e)).leave now draws) := by
  have hstate : ∀ fault, (d.faulty fault).state = d.state := fun _ => rfl
  have hconfig : ∀ fault, (d.faulty fault).config = d.config := fun _ => rfl
  unfold leave
  rw [hstate, hstate, hconfig, hconfig]
  split
  · exact Refused.silent _ d draws
  · split
    · exact Refused.silent _ d draws
    · have hsent := refused_send d .broadcast .bye [] now draws e
      unfold broadcast
      generalize (d.faulty none).send .broadcast .bye [] now draws = loud at hsent ⊢
      generalize (d.faulty (some e)).send .broadcast .bye [] now draws = quiet at hsent ⊢
      rcases loud with ⟨loudResult, loud, drawn⟩
      rcases quiet with ⟨quietResult, quiet, drawn'⟩
      obtain ⟨hrefusing, ⟨frames, stats, hone, hstats, hloud⟩, hdraws, _⟩ := hsent
      simp only at hrefusing hstats hloud hdraws
      obtain ⟨storage, hpersist⟩ := quiet.forget.persistMembership_eq
      have hforget : loud.forget = quiet.forget.onAir
          { d.radio.faulty none with outbox := d.radio.outbox ++ frames } stats := by
        rw [hloud]
        rfl
      simp only
      rw [hforget, persistMembership_onAir, hpersist]
      exact ⟨hrefusing, ⟨frames, stats, hone, hstats, rfl⟩, hdraws, Or.inl rfl⟩

/-- Whether the radio takes the frame of a call or refuses it, the call leaves the same
tracker, table, handshakes, key and storage, and has told the application the same: only
the radio and the counters of frames sent differ. And where every text can be sealed, no
frame that is routed ends in an error unless the radio has refused. -/
theorem refusal_changes_only_counters (d : Device) (now : UInt64) (draws : Draws) (e : RadioError) :
    (∀ frame, Refused e d.radio ((d.faulty none).processFrame frame now draws)
      ((d.faulty (some e)).processFrame frame now draws)) ∧
    (∀ destination topic payload, Refused e d.radio
      ((d.faulty none).send destination topic payload now draws)
      ((d.faulty (some e)).send destination topic payload now draws)) ∧
    Refused e d.radio ((d.faulty none).requestInclusion now draws)
      ((d.faulty (some e)).requestInclusion now draws) ∧
    Refused e d.radio ((d.faulty none).leave now draws) ((d.faulty (some e)).leave now draws) ∧
    ∀ (s : Station) (frame : Bytes) (rssi : Int16) (time : Nat) (keys : KeyRing)
      (error : MeshError), keys.provider.SealsAll →
        (s.route frame rssi time keys).1 = .error error →
        ∃ refusal, s.radio.sendFault = some refusal ∧ error = .radio refusal :=
  ⟨fun frame => refused_processFrame d frame now draws e,
    fun destination topic payload => refused_send d destination topic payload now draws e,
    refused_requestInclusion d now draws e,
    refused_leave d now draws e,
    fun _ _ _ _ _ _ hseals herror => Station.refused_of_route_error hseals herror⟩

/-! ## A frame that is not passed on -/

def refusingConfig : Config := .hub ⟨9⟩

/-- A hub that has just been set up. -/
def refusingDevice : Device where
  config := refusingConfig
  radio := {}
  storage := {}
  router := .create refusingConfig
  inclusion := .create refusingConfig
  keys := { provider := .software }

/-- What another node says to everybody. -/
def refusedPacket : Packet := .fresh ⟨1⟩ .broadcast (.application 0x20) [4, 2] 5

def refusingStation : Station :=
  Station.faulty
    { router := refusingDevice.router, radio := {}, draws := { source := fun _ _ => [] } }
    (some .txTimeout)

theorem refusedPacket_refused :
    (refusingStation.route refusedPacket.frame 0 7 refusingDevice.keys).1 =
      .error (.radio .txTimeout) := by
  decide +kernel

theorem refusal_changes_only_counters_relayed :
    (refusingStation.route refusedPacket.frame 0 7 refusingDevice.keys).1 =
        .error (.radio .txTimeout) ∧
      refusingStation.radio.sendFault = some .txTimeout ∧
      Refused .txTimeout refusingDevice.radio
        ((refusingDevice.faulty none).processFrame refusedPacket.frame 7 refusingStation.draws)
        ((refusingDevice.faulty (some .txTimeout)).processFrame refusedPacket.frame 7
          refusingStation.draws) := by
  obtain ⟨hframe, _, _, _, herror⟩ :=
    refusal_changes_only_counters refusingDevice 7 refusingStation.draws .txTimeout
  obtain ⟨refusal, hfault, hrefusal⟩ := herror refusingStation refusedPacket.frame 0 7
    refusingDevice.keys _ CryptoProvider.software_isFaithful.sealsAll refusedPacket_refused
  cases hrefusal
  exact ⟨refusedPacket_refused, hfault, hframe refusedPacket.frame⟩

end Device
end Meshwork
