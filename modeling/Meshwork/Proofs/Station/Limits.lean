import Meshwork.Proofs.Station.Emissions

/-!
# What a node can send

The size of a message is looked at more than once on its way to the radio, first bare and
then sealed. In the end one number decides, that of the bytes that go on the air as its
payload. What is too long, or can not be sealed, leaves no trace but in the draws.
-/

namespace Meshwork
set_option autoImplicit false
open DuplicateTracker (Event)

theorem Packet.Fits.length_frame {p : Packet} (h : p.Fits) :
    p.frame.length ≤ Packet.maxFrameLength := by
  have hpayload : p.payload.length ≤ Packet.maxPayload := h.payload
  rw [Packet.frame, Packet.length_sealBody, Packet.length_body]
  simp only [Packet.maxPayload, Packet.minFrameLength, Packet.maxFrameLength, Packet.headerLength,
    Packet.checksumLength] at hpayload ⊢
  omega

namespace Station

variable {s : Station} {p : Packet} {keys : KeyRing} {destination : NodeId} {topic : Topic}
variable {payload : Bytes} {now : Nat}

/-! ## Routers that come about -/

/-- A router that was set up like this and has been through anything that can be done with
one. Its table is open to its owner, who may do with it as he likes. -/
inductive Reached (config : Config) : Station → Prop where
  | start (radio : Radio) (draws : Draws) : Reached config ⟨.create config, radio, draws⟩
  | listens {s : Station} {router : Router} (h : Reached config s)
      (hlisten : s.router.listen = .ok router) : Reached config { s with router := router }
  | table {s : Station} (h : Reached config s) (table : RouteTable) :
      Reached config { s with router.table := table }
  | screens {s : Station} (h : Reached config s) (frame : Bytes) (rssi : Int16) (now : Nat) :
      Reached config { s with router := (s.router.screen frame rssi now).2 }
  | dispatches {s : Station} (h : Reached config s) (p : Packet) (now : Nat) (keys : KeyRing) :
      Reached config (s.dispatch p now keys).2
  | transmits {s : Station} (h : Reached config s) (p : Packet) (now : Nat) :
      Reached config (s.transmit p now).2
  | calls {s : Station} (h : Reached config s) (call : Call) : Reached config (call.perform s)
  | world {s : Station} (h : Reached config s) (radio : Radio) (draws : Draws) :
      Reached config { s with radio := radio, draws := draws }

theorem tracker_of_listen {r router : Router} (h : r.listen = .ok router) :
    router.tracker = r.tracker := by
  unfold Router.listen at h
  split at h
  · cases h
  · cases h
    rfl

/-- All that has ever happened to the tracker is that it was asked and swept. -/
theorem Reached.tracker {config : Config} (h : Reached config s) :
    ∃ events, s.router.tracker = (DuplicateTracker.create config.dedupWindow.toNat
      config.dedupCapacity.toNat).run events := by
  induction h with
  | start radio draws => exact ⟨[], rfl⟩
  | listens _ hlisten ih =>
    obtain ⟨events, htracker⟩ := ih
    exact ⟨events, (tracker_of_listen hlisten).trans htracker⟩
  | table _ table ih => exact ih
  | @screens s _ frame rssi now ih =>
    obtain ⟨events, htracker⟩ := ih
    refine ⟨events ++ screenEvents s.router frame now, ?_⟩
    rw [DuplicateTracker.run_append, ← htracker]
    exact screen_tracker s.router frame rssi now
  | @dispatches s _ p now keys ih =>
    obtain ⟨events, htracker⟩ := ih
    refine ⟨events ++ s.dispatchEvents p now keys, ?_⟩
    rw [DuplicateTracker.run_append, ← htracker]
    exact s.dispatch_tracker p now keys
  | @transmits s _ p now ih =>
    obtain ⟨events, htracker⟩ := ih
    refine ⟨events ++ s.transmitEvents p now, ?_⟩
    rw [DuplicateTracker.run_append, ← htracker]
    exact s.transmit_tracker p now
  | @calls s _ call ih =>
    obtain ⟨events, htracker⟩ := ih
    refine ⟨events ++ call.events s, ?_⟩
    rw [DuplicateTracker.run_append, ← htracker]
    exact s.perform_tracker call
  | world _ radio draws ih => exact ih

theorem Reached.contains {config : Config} (h : Reached config s)
    (hwindow : 1 ≤ config.dedupWindow.toNat) (key : MessageKey) (now : Nat) :
    (s.router.tracker.observe key now).2.contains key now = true := by
  obtain ⟨events, htracker⟩ := h.tracker
  rw [htracker]
  refine DuplicateTracker.contains_observe ?_ ?_ ?_ key now
  · rw [DuplicateTracker.run_window]
    exact hwindow
  · rw [DuplicateTracker.run_capacity]
    exact Nat.le_max_right _ 1
  · exact (DuplicateTracker.isApart_create _ _).run events hwindow

/-! ## Composing a message -/

theorem compose_eq_ok_iff : (s.compose destination topic payload keys).1 = .ok p ↔
    topic.isCanonical = true ∧ ∃ blob after,
      sealPayload (s.header destination topic) payload keys (s.draws.take 4).2 = (.ok blob, after) ∧
        blob.length ≤ Packet.maxPayload ∧
        p = { s.header destination topic with payload := blob } := by
  constructor
  · intro h
    have hcanonical : topic.isCanonical = true := by
      have hmessage := composed h
      exact hmessage.topic ▸ hmessage.canonical
    refine ⟨hcanonical, ?_⟩
    unfold compose at h
    rw [create_header destination hcanonical] at h
    simp only at h
    rcases hpayload : sealPayload (s.header destination topic) payload keys (s.draws.take 4).2 with
      ⟨result, after⟩
    rw [hpayload] at h
    cases result with
    | error e => cases h
    | ok blob =>
      simp only at h
      split at h
      · cases h
      · rename_i hshort
        exact ⟨blob, after, rfl, Nat.le_of_not_lt hshort, (Except.ok.inj h).symm⟩
  · rintro ⟨hcanonical, blob, after, hpayload, hshort, rfl⟩
    rw [(compose_of_payload destination hcanonical hpayload hshort).1]

theorem fits_of_compose (h : (s.compose destination topic payload keys).1 = .ok p) : p.Fits := by
  obtain ⟨hcanonical, blob, after, _, hshort, rfl⟩ := compose_eq_ok_iff.mp h
  exact ⟨hcanonical, hshort⟩

/-- A handshake goes on the air as it is, and all else as long as the provider makes it. -/
theorem sealPayload_fits_iff (hseals : keys.provider.SealsAll) (p : Packet) (draws : Draws) :
    (∃ blob after, sealPayload p payload keys draws = (.ok blob, after) ∧
      blob.length ≤ Packet.maxPayload) ↔
    p.topic.isInclusion = true ∧ payload.length ≤ Packet.maxPayload ∨
      p.topic.isInclusion = false ∧ keys.hasKey = true ∧
        payload.length + CryptoProvider.sealOverhead ≤ Packet.maxPayload := by
  unfold sealPayload
  cases hplain : p.topic.isInclusion with
  | true =>
    rw [if_pos rfl]
    constructor
    · rintro ⟨blob, after, hblob, hshort⟩
      cases hblob
      exact Or.inl ⟨rfl, hshort⟩
    · rintro (⟨_, hshort⟩ | ⟨hfalse, _⟩)
      · exact ⟨payload, draws, rfl, hshort⟩
      · cases hfalse
  | false =>
    rw [if_neg Bool.false_ne_true]
    constructor
    · rintro ⟨blob, after, hblob, hshort⟩
      obtain ⟨key, hkey, hseal⟩ := KeyRing.sealText_eq_ok hblob
      obtain ⟨blob', after', hseal', hlength⟩ := hseals key p.associatedData payload draws
      rw [hseal] at hseal'
      cases hseal'
      exact Or.inr ⟨rfl, Option.isSome_iff_exists.mpr ⟨key, hkey⟩, hlength ▸ hshort⟩
    · rintro (⟨hfalse, _⟩ | ⟨_, hheld, hshort⟩)
      · cases hfalse
      · obtain ⟨key, hkey⟩ := Option.isSome_iff_exists.mp hheld
        obtain ⟨blob, after, hseal, hlength⟩ := hseals key p.associatedData payload draws
        exact ⟨blob, after, KeyRing.sealText_of_key hkey hseal, hlength ▸ hshort⟩

/-- What is short enough to be sealed is short enough to go bare, so the second limit need
not except handshakes. -/
theorem composes_iff (hseals : keys.provider.SealsAll) :
    (∃ p, (s.compose destination topic payload keys).1 = .ok p) ↔
      topic.isCanonical = true ∧
        (topic.isInclusion = true ∧ payload.length ≤ 229 ∨
          keys.hasKey = true ∧ payload.length ≤ 201) := by
  have hready : (∃ p, (s.compose destination topic payload keys).1 = .ok p) ↔
      topic.isCanonical = true ∧ ∃ blob after, sealPayload (s.header destination topic) payload
        keys (s.draws.take 4).2 = (.ok blob, after) ∧ blob.length ≤ Packet.maxPayload := by
    constructor
    · rintro ⟨p, h⟩
      obtain ⟨hcanonical, blob, after, hpayload, hshort, _⟩ := compose_eq_ok_iff.mp h
      exact ⟨hcanonical, blob, after, hpayload, hshort⟩
    · rintro ⟨hcanonical, blob, after, hpayload, hshort⟩
      exact ⟨_, compose_eq_ok_iff.mpr ⟨hcanonical, blob, after, hpayload, hshort, rfl⟩⟩
  rw [hready, sealPayload_fits_iff hseals]
  change _ ∧ (topic.isInclusion = true ∧ payload.length ≤ 229 ∨
    topic.isInclusion = false ∧ keys.hasKey = true ∧ payload.length + 28 ≤ 229) ↔ _
  refine and_congr_right fun _ => ?_
  cases topic.isInclusion with
  | true =>
    have hbare : payload.length ≤ 201 → payload.length ≤ 229 := by omega
    simp only [true_and, Bool.true_eq_false, false_and, or_false]
    exact ⟨Or.inl, fun h => h.elim id fun ⟨_, hshort⟩ => hbare hshort⟩
  | false =>
    have hsealed : payload.length + 28 ≤ 229 ↔ payload.length ≤ 201 := by omega
    simp only [Bool.false_eq_true, false_and, true_and, false_or, hsealed]

/-! ## Sending it -/

theorem transmit_faulty {e : RadioError} (hradio : s.radio.sendFault = some e) (hfits : p.Fits)
    (now : Nat) : s.transmit p now = (.error (.radio e), s.record p now) := by
  have haddressed : (s.address p).Fits := ⟨hfits.topic, hfits.payload⟩
  unfold transmit
  rw [haddressed.encode]
  simp only
  rcases (s.record p now).send_cases (s.address p).frame with ⟨e', hfault, h⟩ | ⟨hfault, _⟩
  · rw [show (s.record p now).radio.sendFault = some e from hradio] at hfault
    cases hfault
    rw [h]
  · rw [show (s.record p now).radio.sendFault = some e from hradio] at hfault
    cases hfault

/-- A message that can not be composed ends where it is; one that can is refused by the
radio, or goes out. -/
theorem originate_split (s : Station) (destination : NodeId) (topic : Topic) (payload : Bytes)
    (now : Nat) (keys : KeyRing) :
    (∃ e draws, (s.compose destination topic payload keys).1 = .error e ∧
      s.originate destination topic payload now keys = (.error e, { s with draws := draws })) ∨
    ∃ p draws, (s.compose destination topic payload keys).1 = .ok p ∧
      ((∃ e, s.radio.sendFault = some e ∧
        (s.originate destination topic payload now keys).1 = .error (.radio e)) ∨
      s.radio.sendFault = none ∧
        s.originate destination topic payload now keys = (.ok p.packetId,
          { s with
            draws := draws
            radio := { s.radio with outbox := s.radio.outbox ++ [(s.address p).frame] }
            router.tracker := (s.router.tracker.observe p.key now).2
            router.stats.sent := s.router.stats.sent + 1 })) := by
  have hfits : ∀ p, (s.compose destination topic payload keys).1 = .ok p → p.Fits :=
    fun _ => fits_of_compose
  unfold originate
  rcases s.compose_cases destination topic payload keys with ⟨e, draws, h⟩ | ⟨id, blob, draws, h⟩
  · rw [h]
    exact Or.inl ⟨e, draws, rfl, rfl⟩
  · rw [h] at hfits ⊢
    generalize ({ Packet.fresh s.router.nodeId destination topic [] id with
      payload := blob } : Packet) = p at hfits ⊢
    refine Or.inr ⟨p, draws, rfl, ?_⟩
    simp only
    rcases Option.eq_none_or_eq_some s.radio.sendFault with hradio | ⟨e, hradio⟩
    · right
      exact ⟨hradio, transmit_eq (s := { s with draws := draws }) hradio (hfits p rfl) now⟩
    · left
      refine ⟨e, hradio, ?_⟩
      rw [transmit_faulty (s := { s with draws := draws }) hradio (hfits p rfl) now]

theorem originates_iff_composes (hradio : s.radio.sendFault = none) :
    (∃ id, (s.originate destination topic payload now keys).1 = .ok id) ↔
      ∃ p, (s.compose destination topic payload keys).1 = .ok p := by
  rcases s.originate_split destination topic payload now keys with
    ⟨e, draws, hcompose, h⟩ | ⟨p, draws, hcompose, h⟩
  · rw [hcompose, h]
    exact ⟨fun ⟨_, h⟩ => (nomatch h), fun ⟨_, h⟩ => (nomatch h)⟩
  · rw [hradio] at h
    rcases h with ⟨e, hfault, _⟩ | ⟨_, h⟩
    · cases hfault
    · rw [hcompose, h]
      exact ⟨fun _ => ⟨p, rfl⟩, fun _ => ⟨p.packetId, rfl⟩⟩

/-- Where the radio works and the provider seals everything in 28 bytes more, a message is
sent if and only if its topic is one that goes on the air and it has 229 bytes at most, or 201
and a key to seal it if it is no handshake. What is sent is one frame that the tracker knows
as this message, and a failure that is not one of the radio changes nothing. -/
theorem originate_within_limits {config : Config} (hreached : Reached config s)
    (hwindow : 1 ≤ config.dedupWindow.toNat) (destination : NodeId) (topic : Topic)
    (payload : Bytes) (now : Nat) (keys : KeyRing) :
    (s.radio.sendFault = none → keys.provider.SealsAll →
      ((∃ id, (s.originate destination topic payload now keys).1 = .ok id) ↔
        topic.isCanonical = true ∧
          (topic.isInclusion = true ∧ payload.length ≤ 229 ∨
            keys.hasKey = true ∧ payload.length ≤ 201))) ∧
    (∀ id, (s.originate destination topic payload now keys).1 = .ok id →
      ∃ frame q,
        (s.originate destination topic payload now keys).2.radio =
            { s.radio with outbox := s.radio.outbox ++ [frame] } ∧
          frame.length ≤ 256 ∧ Packet.decode frame = .ok q ∧ q.source = s.router.nodeId ∧
          q.destination = destination ∧ q.topic = topic ∧ q.packetId = id ∧
          (s.originate destination topic payload now keys).2.router.tracker.contains
            (q.source, q.packetId) now = true) ∧
    ∀ e, (s.originate destination topic payload now keys).1 = .error e →
      (∀ fault, e ≠ .radio fault) →
      (s.originate destination topic payload now keys).2.router = s.router ∧
        (s.originate destination topic payload now keys).2.radio = s.radio := by
  have hsplit := s.originate_split destination topic payload now keys
  refine ⟨fun hradio hseals => ?_, fun id hsent => ?_, fun e hfailed hother => ?_⟩
  · rw [originates_iff_composes hradio, composes_iff hseals]
  · rcases hsplit with ⟨e, draws, _, h⟩ | ⟨p, draws, hcompose, ⟨e, _, h⟩ | ⟨_, h⟩⟩
    · rw [h] at hsent
      cases hsent
    · rw [h] at hsent
      cases hsent
    · rw [h] at hsent ⊢
      cases hsent
      have hfits := fits_of_compose hcompose
      have hmessage := composed hcompose
      have haddressed : (s.address p).Fits := ⟨hfits.topic, hfits.payload⟩
      exact ⟨_, s.address p, rfl, haddressed.length_frame, haddressed.decode, hmessage.source,
        hmessage.destination, hmessage.topic, rfl, hreached.contains hwindow p.key now⟩
  · rcases hsplit with ⟨e, draws, _, h⟩ | ⟨p, draws, _, ⟨fault, _, h⟩ | ⟨_, h⟩⟩
    · rw [h]
      exact ⟨rfl, rfl⟩
    · rw [h] at hfailed
      exact absurd (Except.error.inj hfailed).symm (hother fault)
    · rw [h] at hfailed
      cases hfailed

def memberKeys : KeyRing := { provider := .software, key := some ⟨Bytes.block 32 [7]⟩ }

def silentStation : Station :=
  ⟨.create (.standard ⟨9⟩), {}, { source := fun _ _ => [] }⟩

/-- The longest message that a member can send, and a byte more. -/
theorem originate_within_limits_edge :
    (∃ id, (silentStation.originate ⟨2⟩ .cmd (List.replicate 201 0) 5 memberKeys).1 = .ok id) ∧
      ¬∃ id, (silentStation.originate ⟨2⟩ .cmd (List.replicate 202 0) 5 memberKeys).1 = .ok id := by
  have hreached : Reached (.standard ⟨9⟩) silentStation := .start _ _
  have hseals : memberKeys.provider.SealsAll := CryptoProvider.software_isFaithful.sealsAll
  have hlimits := fun payload => (originate_within_limits hreached (by decide) ⟨2⟩ .cmd payload 5
    memberKeys).1 rfl hseals
  rw [hlimits, hlimits, List.length_replicate, List.length_replicate]
  decide

end Station
end Meshwork
