import Meshwork.Proofs.Device.Emissions

/-!
# How old a route is that a frame takes

Routes that have expired are looked for in polls only, and there before anything is heard.
What a poll sends to a next hop takes a route that has not expired. What is sent at
another time takes one that had not expired at the last poll, however long ago that was:
to look a route up is not to look at its time.
-/

namespace Meshwork
set_option autoImplicit false

/-- No route has expired at this time. -/
def RouteTable.IsFresh (t : RouteTable) (now : Nat) : Prop :=
  ∀ e ∈ t.routes, e.isExpired now t.timeout = false

theorem RouteTable.isFresh_expire (t : RouteTable) (now : Nat) : (t.expire now).2.IsFresh now := by
  intro e he
  have hkept := (List.mem_filter.mp he).2
  rw [Bool.not_eq_true'] at hkept
  exact hkept

/-- Nothing heard since can have expired before. -/
theorem Router.Stamps.isFresh {r r' : Router} {since now : Nat} (h : r.Stamps now r')
    (hfresh : r.table.IsFresh since) (hlater : since ≤ now) : r'.table.IsFresh since := by
  intro e he
  rw [h.timeout]
  rcases h.routes e he with hnow | hbefore
  · apply decide_eq_false
    omega
  · exact hfresh e hbefore

namespace Device

variable {d : Device} {config : Config} {swept : Option UInt64} {now time : UInt64} {draws : Draws}
  {operation : Operation}

/-! ## Devices with a clock -/

/-- The time of the sweep that a deed begins with, if it does. -/
def Deed.sweep? : Deed → Option UInt64
  | operate (.poll now) => some now
  | _ => none

/-- The states that a device can be in when its clock never goes back, with the time of the
last poll and the last time that it was told. -/
inductive Timed (config : Config) : Option UInt64 → UInt64 → Device → Prop where
  | create {d : Device} (radio : Radio) (storage : Storage) (provider : CryptoProvider) :
      create config radio storage provider = .ok d → Timed config none 0 d
  | deed {swept : Option UInt64} {now : UInt64} {d : Device} (deed : Deed) (draws : Draws) :
      Timed config swept now d → now ≤ deed.time?.getD now →
        Timed config (deed.sweep?.or swept) (deed.time?.getD now) (deed.perform (d, draws)).1

theorem Timed.reachable (h : Timed config swept now d) : Reachable config d := by
  induction h with
  | create radio storage provider hcreate => exact .create radio storage provider hcreate
  | deed deed draws _ _ ih => exact .deed deed draws ih

theorem isFresh_poll (d : Device) (now : UInt64) (draws : Draws) :
    (d.poll now draws).2.1.router.table.IsFresh now.toNat := by
  have hswept : (d.router.sweep now.toNat).table.IsFresh now.toNat :=
    d.router.table.isFresh_expire now.toNat
  have hready : (d.ready (.poll now)).table.IsFresh now.toNat := by
    rcases d.ready_poll now with h | ⟨frame, rssi, h⟩
    · rw [h]
      exact hswept
    · rw [h]
      exact ((d.router.sweep now.toNat).stamps_screen frame rssi now.toNat).isFresh hswept
        (Nat.le_refl _)
  obtain ⟨radio, _, drawn, work, hrouter, _⟩ := d.worked_poll now draws
  have hworked := Station.forgets_work
    { router := d.ready (.poll now), radio := radio, draws := drawn } work
  rw [hrouter]
  exact (hworked.stamps _).isFresh hready (Nat.le_refl _)

theorem isFresh_later {since : UInt64} (deed : Deed) (draws : Draws)
    (hfresh : d.router.table.IsFresh since.toNat) (hlater : since ≤ deed.time?.getD now) :
    (deed.perform (d, draws)).1.router.table.IsFresh since.toNat := by
  obtain ⟨listening, hstamps⟩ := d.stamps_deed deed draws now
  exact hstamps.isFresh hfresh hlater

theorem eq_poll_of_sweep {deed : Deed} (h : deed.sweep? = some time) :
    deed = .operate (.poll time) := by
  cases deed with
  | operate operation =>
    cases operation with
    | poll now =>
      cases h
      rfl
    | _ => cases h
  | _ => cases h

/-- No route is in the table that had expired at the last poll. -/
theorem Timed.isFresh (h : Timed config swept now d) :
    ∀ t, swept = some t → t ≤ now ∧ d.router.table.IsFresh t.toNat := by
  induction h with
  | create radio storage provider hcreate => exact fun t ht => nomatch ht
  | @deed swept now d deed draws _ htime ih =>
    intro t ht
    cases hsweep : deed.sweep? with
    | none =>
      rw [hsweep] at ht
      obtain ⟨hbefore, hfresh⟩ := ih t ht
      have hlater : t ≤ deed.time?.getD now := UInt64.le_trans hbefore htime
      exact ⟨hlater, isFresh_later deed draws hfresh hlater⟩
    | some time =>
      rw [hsweep] at ht
      cases ht
      rw [eq_poll_of_sweep hsweep]
      exact ⟨UInt64.le_refl _, d.isFresh_poll _ draws⟩

/-! ## Frames and routes -/

theorem gains_follows (d : Device) (operation : Operation) (draws : Draws) :
    (d.radioFor (.operate operation)).Gains
      (·.Follows (d.ready operation).table (operation.perform (d, draws)).1.router.table)
      (operation.perform (d, draws)).1.radio := by
  obtain ⟨radio, houtbox, drawn, work, hrouter, hradio⟩ := d.worked operation draws
  have hair := Station.follows_work
    { router := d.ready operation, radio := radio, draws := drawn } work
  rw [hrouter, hradio]
  exact hair.gains.of_outbox houtbox.symm

/-- While the clock of a device does not go back: every unicast that it hands to its radio
for a certain next hop goes along a route that is in the table all the while that the frame
is made and sent. In a poll that route has not expired, and otherwise it had not expired at
the last poll. -/
theorem route_of_emission (h : Timed config swept now d) (operation : Operation) (draws : Draws)
    (htime : now ≤ operation.time?.getD now) :
    let after := (operation.perform (d, draws)).1
    ∃ frames, after.radio.outbox = (d.radioFor (.operate operation)).outbox ++ frames ∧
      ∀ frame ∈ frames, ∃ q : Packet, q.encode = .ok frame ∧
        (q.isBroadcast = false → q.nextHop.isBroadcast = false →
          ∃ e, (d.ready operation).table.lookup q.destination = some e ∧
            after.router.table.lookup q.destination = some e ∧ e.nextHop = q.nextHop ∧
            (∀ t, operation = .poll t → e.isExpired t.toNat config.routeTimeout.toNat = false) ∧
            (∀ t, swept = some t → e.isExpired t.toNat config.routeTimeout.toNat = false)) := by
  intro after
  have hnext : Timed config _ _ after := h.deed (.operate operation) draws htime
  have htimeout : after.router.table.timeout = config.routeTimeout.toNat :=
    hnext.reachable.fitsConfig.2.timeout
  obtain ⟨frames, houtbox, hframes⟩ := d.gains_follows operation draws
  refine ⟨frames, houtbox, fun frame hframe => ?_⟩
  obtain ⟨q, hencode, hfollows⟩ := hframes frame hframe
  refine ⟨q, hencode, fun hone hnamed => ?_⟩
  obtain ⟨e, hbefore, hafter, hnextHop⟩ := hfollows hone hnamed
  have hmem : e ∈ after.router.table.routes := (RouteTable.mem_of_lookup hafter).1
  refine ⟨e, hbefore, hafter, hnextHop, ?_, ?_⟩
  · rintro t rfl
    rw [← htimeout]
    exact d.isFresh_poll t draws e hmem
  · intro t hlast
    obtain ⟨hbefore, hfresh⟩ := h.isFresh t hlast
    rw [← htimeout]
    exact isFresh_later (.operate operation) draws hfresh (UInt64.le_trans hbefore htime) e hmem

/-! ## A neighbour that falls silent -/

def wayDraws : Draws := { source := fun _ _ => [] }

def wayStart : Device where
  config := .standard ⟨5⟩
  radio := {}
  storage := {}
  router := .create (.standard ⟨5⟩)
  inclusion := .create (.standard ⟨5⟩)
  keys := { provider := .transparent }

/-- Heard on its way from one node to another. -/
def heardPacket : Packet := { Packet.fresh ⟨7⟩ ⟨9⟩ (.application 0x20) [] 1 with nextHop := ⟨8⟩ }

/-- For the node that was heard, to be sent on by whoever can. -/
def soughtPacket : Packet := .fresh ⟨8⟩ ⟨7⟩ (.application 0x20) [] 2

def foundPacket : Packet := soughtPacket.copy 1 ⟨5⟩ ⟨7⟩

theorem heardPacket_fits : heardPacket.Fits := ⟨rfl, Nat.zero_le _⟩

theorem soughtPacket_fits : soughtPacket.Fits := ⟨rfl, Nat.zero_le _⟩

theorem foundPacket_fits : foundPacket.Fits := soughtPacket_fits.copy 1 ⟨5⟩ ⟨7⟩

/-- The device that has heard one node, and the same after a poll. -/
def taught : Device :=
  (Deed.perform (wayStart, wayDraws) (.operate (.processFrame heardPacket.frame 0))).1

def watched : Device := (Deed.perform (taught, wayDraws) (.operate (.poll 5))).1

theorem taught_timed : Timed (.standard ⟨5⟩) none 0 taught :=
  .deed (.operate (.processFrame heardPacket.frame 0)) wayDraws
    (.create {} {} .transparent rfl) (Nat.le_refl 0)

theorem watched_timed : Timed (.standard ⟨5⟩) (some 5) 5 watched :=
  .deed (.operate (.poll 5)) wayDraws taught_timed (Nat.zero_le 5)

theorem taught_eq : taught = wayStart.attend heardPacket 0 wayDraws :=
  perform_of_encode heardPacket_fits.encode rfl

theorem watched_eq : watched = taught := by
  unfold watched
  rw [taught_eq]
  rfl

theorem taught_sought (now : UInt64) :
    (Operation.perform (taught, wayDraws) (.processFrame soughtPacket.frame now)).1 =
      (wayStart.attend heardPacket 0 wayDraws).attend soughtPacket now wayDraws := by
  rw [taught_eq]
  exact perform_of_encode soughtPacket_fits.encode rfl

theorem route_of_emission_relayed :
    Timed (.standard ⟨5⟩) (some 5) 5 watched ∧
      let after :=
        (Operation.perform (watched, wayDraws) (.processFrame soughtPacket.frame 10)).1
      after.radio.outbox = [foundPacket.frame] ∧
        ∃ e, after.router.table.lookup foundPacket.destination = some e ∧
          e.nextHop = foundPacket.nextHop ∧
          e.isExpired 5 (Config.standard ⟨5⟩).routeTimeout.toNat = false := by
  obtain ⟨frames, houtbox, hframes⟩ := route_of_emission watched_timed
    (.processFrame soughtPacket.frame 10) wayDraws (by decide)
  have hsent : (Operation.perform (watched, wayDraws)
      (.processFrame soughtPacket.frame 10)).1.radio.outbox = [foundPacket.frame] := by
    rw [watched_eq, taught_sought]
    rfl
  refine ⟨watched_timed, hsent, ?_⟩
  have hnone : (watched.radioFor (.operate (.processFrame soughtPacket.frame 10))).outbox = [] := by
    rw [watched_eq, taught_eq]
    rfl
  rw [hnone, List.nil_append, hsent] at houtbox
  obtain ⟨q, hencode, hroute⟩ := hframes foundPacket.frame (houtbox ▸ List.mem_singleton.mpr rfl)
  have hdecode := Packet.decode_eq_ok_iff_encode.mpr hencode
  rw [foundPacket_fits.decode] at hdecode
  cases hdecode
  obtain ⟨e, _, hafter, hnext, _, hunexpired⟩ := hroute rfl rfl
  exact ⟨e, hafter, hnext, hunexpired 5 rfl⟩

/-- Without a poll in between, a frame takes a route that has expired. -/
theorem expired_route_taken :
    Timed (.standard ⟨5⟩) none 0 taught ∧
      let after :=
        (Operation.perform (taught, wayDraws) (.processFrame soughtPacket.frame 300001)).1
      (taught.radio.outbox = [] ∧ after.radio.outbox = [foundPacket.frame] ∧
          foundPacket.encode = .ok foundPacket.frame) ∧
        (foundPacket.isBroadcast = false ∧ foundPacket.nextHop.isBroadcast = false) ∧
        ∀ e ∈ taught.router.table.routes ++ after.router.table.routes,
          e.destination = foundPacket.destination →
            e.isExpired 300001 (Config.standard ⟨5⟩).routeTimeout.toNat = true := by
  refine ⟨taught_timed, ?_⟩
  intro after
  have hafter : after =
      (wayStart.attend heardPacket 0 wayDraws).attend soughtPacket 300001 wayDraws :=
    taught_sought 300001
  rw [hafter, taught_eq]
  exact ⟨⟨rfl, rfl, foundPacket_fits.encode⟩, ⟨rfl, rfl⟩, by decide⟩

end Device
end Meshwork
