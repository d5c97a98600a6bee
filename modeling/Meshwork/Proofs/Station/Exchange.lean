import Meshwork.Proofs.Device.Setup
import Meshwork.Proofs.Station.Hearing

/-!
# A request and its answer at one station

A station that has heard a request knows the message, and the way back to the node
that sent it. Whatever it hears of both messages later leaves that as it is, until
the first copy of the answer comes that is meant for it.
-/

namespace Meshwork
set_option autoImplicit false

/-- Nothing recorded or learned so long ago has expired. -/
structure Config.Lasts (c : Config) (elapsed : Nat) : Prop where
  window : elapsed < c.dedupWindow.toNat
  timeout : elapsed ≤ c.routeTimeout.toNat

theorem Config.Lasts.mono {c : Config} {elapsed shorter : Nat} (h : c.Lasts elapsed)
    (hle : shorter ≤ elapsed) : c.Lasts shorter :=
  ⟨Nat.lt_of_le_of_lt hle h.window, Nat.le_trans hle h.timeout⟩

/-- A packet on its way between other nodes that says nothing of the way to this one. -/
structure Packet.PassesBy (own : NodeId) (ids : List NodeId) (node : NodeId) (p : Packet) :
    Prop where
  overheard : ∀ r : Router, r.nodeId = own → r.isOverheard p = true
  source : p.source ∈ ids
  last : p.lastHop ∈ ids
  other : node ≠ p.source
  relay : node ≠ p.lastHop

/-- A copy of a request from one node to another that is still searching its way. -/
structure Packet.Searches (c : Config) (ids : List NodeId) (p : Packet) : Prop where
  plain : p.topic.isInclusion = false
  one : p.isBroadcast = false
  next : p.nextHop = .broadcast
  source : p.source ∈ ids
  last : p.lastHop ∈ ids
  foreign : p.source ≠ c.nodeId
  ends : p.destination ≠ p.source
  unreached : p.destination ≠ p.lastHop
  near : p.hopCount.toNat + 1 < c.maxHops.toNat

/-- A copy of an answer to this node that a relay is to take. -/
structure Packet.Returns (c : Config) (ids : List NodeId) (node : NodeId) (p : Packet) : Prop where
  plain : p.topic.isInclusion = false
  one : p.isBroadcast = false
  next : p.nextHop = c.nodeId
  destination : p.destination = node
  away : p.destination ≠ c.nodeId
  source : p.source ∈ ids
  last : p.lastHop ∈ ids
  foreign : p.source ≠ c.nodeId
  other : node ≠ p.source
  relay : node ≠ p.lastHop
  within : p.hopCount < c.maxHops

namespace Router

/-- A router that heard a message at this time, and of new ones nothing since but its
answer; it knows the way back by this neighbour, unless the message is its own. -/
structure Informed (c : Config) (ids : List NodeId) (key answer : MessageKey) (stamp : Nat)
    (way : Option NodeId) (r : Router) : Prop where
  fits : r.FitsConfig c
  remembers : ∃ since, since ⊆ [answer] ∧ r.tracker.Remembers key stamp since
  leads : ∀ next ∈ way, r.table.Leads ids key.1 next stamp

/-- Besides, it has heard the answer. -/
structure Answered (c : Config) (ids : List NodeId) (key answer : MessageKey) (stamp now : Nat)
    (way : Option NodeId) (r : Router) : Prop extends Informed c ids key answer stamp way r where
  heard : ∃ since, r.tracker.Remembers answer now since

variable {r r' : Router} {p : Packet} {c : Config} {ids : List NodeId} {key answer : MessageKey}
variable {stamp now time : Nat} {way : Option NodeId} {rssi : Int16}

theorem Informed.sweep (h : r.Informed c ids key answer stamp way)
    (hlasts : c.Lasts (now - stamp)) :
    (r.sweep now).Informed c ids key answer stamp way := by
  obtain ⟨since, hsince, hremembers⟩ := h.remembers
  have hwindow := h.fits.window
  have htimeout := h.fits.timeout
  refine ⟨h.fits.of_alike (forgets_sweep r now).toAlike, ⟨since, hsince, ?_⟩, ?_⟩
  · exact hremembers.evict (hwindow ▸ hlasts.window)
  · exact fun next hnext => (h.leads next hnext).expire (htimeout ▸ hlasts.timeout)

theorem Informed.contains (h : r.Informed c ids key answer stamp way)
    (hlasts : c.Lasts (now - stamp)) : r.tracker.contains key now = true := by
  obtain ⟨since, _, hremembers⟩ := h.remembers
  have hwindow := h.fits.window
  exact hremembers.contains (hwindow ▸ hlasts.window)

theorem Answered.sweep (h : r.Answered c ids key answer stamp now way)
    (hlasts : c.Lasts (now - stamp)) (hvalid : c.IsValid) :
    (r.sweep now).Answered c ids key answer stamp now way := by
  obtain ⟨since, hremembers⟩ := h.heard
  have hwindow := h.fits.window
  refine ⟨h.toInformed.sweep hlasts, since, hremembers.evict ?_⟩
  rw [hwindow, Nat.sub_self]
  exact hvalid.dedupWindow

theorem Answered.contains (h : r.Answered c ids key answer stamp now way) (hvalid : c.IsValid) :
    r.tracker.contains answer now = true := by
  obtain ⟨since, hremembers⟩ := h.heard
  have hwindow := h.fits.window
  refine hremembers.contains ?_
  rw [hwindow, Nat.sub_self]
  exact hvalid.dedupWindow

theorem Informed.congr (h : r.Informed c ids key answer stamp way) (hfits : r'.FitsConfig c)
    (htracker : r'.tracker = r.tracker)
    (hleads : ∀ next, r.table.Leads ids key.1 next stamp → r'.table.Leads ids key.1 next stamp) :
    r'.Informed c ids key answer stamp way :=
  ⟨hfits, htracker ▸ h.remembers, fun next hnext => hleads next (h.leads next hnext)⟩

/-- With room for two messages, a router that records the answer still knows the request. -/
theorem Informed.answered (h : r.Informed c ids key answer stamp way) (hvalid : c.IsValid)
    (hcapacity : 2 ≤ c.dedupCapacity.toNat) (hapart : key ≠ answer)
    (hnew : r.tracker.contains answer now = false) (hfits : r'.FitsConfig c)
    (htracker : r'.tracker = r.tracker.record answer now)
    (hleads : ∀ next ∈ way, r'.table.Leads ids key.1 next stamp) :
    r'.Answered c ids key answer stamp now way := by
  obtain ⟨since, hsince, hremembers⟩ := h.remembers
  have htwo : 2 ≤ r.tracker.capacity := by
    rw [h.fits.capacity]
    exact Nat.le_trans hcapacity (Nat.le_max_left _ _)
  refine ⟨⟨hfits, ⟨[answer], List.Subset.refl _, ?_⟩, hleads⟩, [], ?_⟩
  · rw [htracker]
    exact hremembers.record_other htwo hapart hsince hnew
  · rw [htracker]
    exact h.fits.remembers hvalid hnew

end Router

namespace Station

variable {s : Station} {p : Packet} {keys : KeyRing} {entry : Bytes × Int16} {c : Config}
variable {ids : List NodeId} {key answer : MessageKey} {stamp now time : Nat} {way : Option NodeId}

/-- A frame that is known or passes by moves no message, and leaves alone the way to
everybody that it does not come from. -/
theorem attend_idle (keys : KeyRing) {node : NodeId} (hdecode : Packet.decode entry.1 = .ok p)
    (hidle : (s.router.sweep now).tracker.contains p.key now = true ∨
      p.PassesBy s.router.nodeId ids node) :
    (attend keys now s entry).router.tracker = (s.router.sweep now).tracker ∧
      (∀ next since, (s.router.sweep now).table.Leads ids node next since →
        (attend keys now s entry).router.table.Leads ids node next since) ∧
      s.Stays (attend keys now s entry) := by
  rcases hidle with hknown | hpasses
  · have hattend : ∃ stats, attend keys now s entry =
        { s.awake now entry.2 with router := { s.router.sweep now with stats := stats } } :=
      attend_known hdecode hknown
    obtain ⟨stats, h⟩ := hattend
    rw [h]
    exact ⟨rfl, fun _ _ hleads => hleads, rfl, rfl, rfl⟩
  · rw [attend_overheard hdecode (hpasses.overheard s.router rfl)]
    obtain ⟨stats, h⟩ := Router.overhear_eq { s.router.sweep now with
      stats.received := s.router.stats.received + 1 } p entry.2 now
    refine ⟨?_, fun next since hleads => ?_, ?_, rfl, rfl⟩
    · rw [h]
    · exact Router.leads_overhear (r := { s.router.sweep now with
        stats.received := s.router.stats.received + 1 }) hleads hpasses.source hpasses.last
        hpasses.other hpasses.relay entry.2 now
    · rw [h]
      rfl

/-- Copies of the request, and the answer as long as it passes by. -/
def IsIdle (c : Config) (ids : List NodeId) (key : MessageKey) (entry : Bytes × Int16) : Prop :=
  ∃ p, Packet.decode entry.1 = .ok p ∧ (p.key = key ∨ p.PassesBy c.nodeId ids key.1)

theorem attend_informed (keys : KeyRing) (hlasts : c.Lasts (now - stamp))
    (hidle : IsIdle c ids key entry) (h : s.router.Informed c ids key answer stamp way) :
    (attend keys now s entry).router.Informed c ids key answer stamp way ∧
      (∀ time, s.router.tracker.contains answer time = false →
        (attend keys now s entry).router.tracker.contains answer time = false) ∧
      s.Stays (attend keys now s entry) := by
  obtain ⟨p, hdecode, hp⟩ := hidle
  have hswept := h.sweep hlasts
  have hcases : (s.router.sweep now).tracker.contains p.key now = true ∨
      p.PassesBy s.router.nodeId ids key.1 := by
    rcases hp with hkey | hpasses
    · exact .inl (hkey ▸ hswept.contains hlasts)
    · exact .inr (h.fits.nodeId ▸ hpasses)
  obtain ⟨htracker, hleads, hstays⟩ := attend_idle keys hdecode hcases
  refine ⟨hswept.congr (h.fits.of_alike (alike_attend keys now s entry)) htracker
    fun next => hleads next stamp, fun time hnew => ?_, hstays⟩
  rw [htracker]
  exact DuplicateTracker.not_contains_evict hnew

/-- A station that is informed stays so while it hears only what is idle. -/
theorem attend_all_informed (keys : KeyRing) {entries : List (Bytes × Int16)}
    (hlasts : c.Lasts (now - stamp)) (hidle : ∀ entry ∈ entries, IsIdle c ids key entry)
    (h : s.router.Informed c ids key answer stamp way) :
    (entries.foldl (attend keys now) s).router.Informed c ids key answer stamp way ∧
      (∀ time, s.router.tracker.contains answer time = false →
        (entries.foldl (attend keys now) s).router.tracker.contains answer time = false) ∧
      s.Stays (entries.foldl (attend keys now) s) := by
  induction entries generalizing s with
  | nil => exact ⟨h, fun _ hnew => hnew, rfl, rfl, rfl⟩
  | cons entry entries ih =>
    obtain ⟨hfirst, hnew, hstays⟩ := attend_informed keys hlasts (hidle entry List.mem_cons_self) h
    obtain ⟨hrest, hstill, hlast⟩ := ih (fun e he => hidle e (List.mem_cons_of_mem entry he)) hfirst
    exact ⟨hrest, fun time htime => hstill time (hnew time htime), hstays.trans hlast⟩

/-! ## The request -/

/-- A station that has heard of neither message, and knows no way to anybody. -/
structure Awaits (c : Config) (key answer : MessageKey) (now : Nat) (s : Station) : Prop where
  fits : s.router.FitsConfig c
  sends : s.radio.sendFault = none
  listens : s.router.hasHandler = true
  empty : s.router.table.routes = []
  new : s.router.tracker.contains key now = false
  unanswered : s.router.tracker.contains answer now = false

variable {text : Bytes}

theorem Awaits.still_new (h : s.Awaits c p.key answer now) :
    (s.router.sweep now).tracker.contains p.key now = false :=
  DuplicateTracker.not_contains_evict h.new

theorem Awaits.swept (h : s.Awaits c key answer now) :
    (s.router.sweep now).FitsConfig c ∧ (s.router.sweep now).table.routes = [] := by
  refine ⟨h.fits.of_alike (Router.forgets_sweep _ now).toAlike, ?_⟩
  unfold Router.sweep RouteTable.expire
  simp only
  rw [h.empty]
  rfl

/-- The first copy teaches the way back, and no way on. -/
theorem Awaits.accept (h : s.Awaits c key answer now) (hp : p.Searches c ids)
    (hroom : ids.length ≤ c.maxRoutes.toNat) (rssi : Int16) :
    ((s.router.sweep now).accept p rssi now).table.Leads ids p.source p.lastHop now ∧
      ((s.router.sweep now).accept p rssi now).nextHop p.destination = .broadcast := by
  obtain ⟨hfits, hempty⟩ := h.swept
  have hnone : ∀ destination, (s.router.sweep now).table.lookup destination = none := by
    intro destination
    rw [RouteTable.lookup_eq_none_iff, hempty]
    exact fun _ he => absurd he List.not_mem_nil
  have hmaxRoutes := hfits.maxRoutes
  have hmaxHops := hfits.maxHops
  have hnear := hp.near
  unfold Router.accept
  constructor
  · refine Router.leads_learn_source (RouteTable.isConfined_of_nil ?_ ?_) ?_ hp.source hp.last ?_
      rssi now
    · exact hempty
    · change ids.length ≤ (s.router.sweep now).table.maxRoutes
      rw [hmaxRoutes]
      exact Nat.le_trans hroom (Nat.le_max_left _ _)
    · exact hnone p.source
    · change p.hopCount.toNat < (s.router.sweep now).maxHops.toNat - 1
      rw [hmaxHops]
      omega
  · unfold Router.nextHop
    rw [Router.lookup_learn_eq_none _ hp.ends hp.unreached rssi now]
    exact hempty

theorem not_isOverheard_search (r : Router) (hp : p.Searches c ids) : r.isOverheard p = false := by
  unfold Router.isOverheard
  rw [hp.next]
  simp [NodeId.isBroadcast]

/-- A relay that hears a request for the first time learns the way back, and sends the
request on to everybody. -/
theorem attend_search (keys : KeyRing) (h : s.Awaits c p.key answer now) (hvalid : c.IsValid)
    (hrelays : c.relayEnabled = true) (hroom : ids.length ≤ c.maxRoutes.toNat)
    (hdecode : Packet.decode entry.1 = .ok p) (hp : p.Searches c ids)
    (haway : p.destination ≠ c.nodeId) (hanswer : answer ≠ p.key) :
    (attend keys now s entry).router.Informed c ids p.key answer now (some p.lastHop) ∧
      (∀ time, s.router.tracker.contains answer time = false →
        (attend keys now s entry).router.tracker.contains answer time = false) ∧
      (attend keys now s entry).router.handed = s.router.handed ∧
      (attend keys now s entry).draws = s.draws ∧
      (attend keys now s entry).radio.outbox = s.radio.outbox ++
        [(p.copy (p.hopCount + 1) c.nodeId .broadcast).frame] := by
  obtain ⟨hleads, hon⟩ := h.accept hp hroom entry.2
  have hown := h.fits.nodeId
  have hfits : (attend keys now s entry).router.FitsConfig c :=
    h.fits.of_alike (alike_attend keys now s entry)
  have hwithin : p.hopCount < s.router.maxHops := by
    rw [h.fits.maxHops, UInt8.lt_iff_toNat_lt]
    exact Nat.lt_of_succ_lt hp.near
  obtain ⟨stats, hforward⟩ := attend_forward keys hdecode h.sends
    (h.fits.relayEnabled.trans hrelays) (not_isOverheard_search _ hp) h.still_new
    (hown ▸ hp.foreign) hp.plain hp.one (hown ▸ haway) hwithin
  rw [hforward] at hfits ⊢
  rw [hon, hown]
  refine ⟨⟨hfits, ⟨[], List.nil_subset _, ?_⟩, ?_⟩, ?_, rfl, rfl, rfl⟩
  · exact h.swept.1.remembers hvalid h.still_new
  · intro next hnext
    cases hnext
    exact hleads
  · exact fun time hnew => DuplicateTracker.not_contains_record
      (DuplicateTracker.not_contains_evict hnew) hanswer

/-- The node that a command is for hands it over when it hears it for the first time,
and sends the answer back the way that the command came. -/
theorem attend_command {provider : CryptoProvider} {meshKey : MeshKey}
    (h : s.Awaits c p.key answer now) (hvalid : c.IsValid) (hcapacity : 2 ≤ c.dedupCapacity.toNat)
    (hroom : ids.length ≤ c.maxRoutes.toNat) (hkeys : keys.Holds provider meshKey)
    (hfaithful : provider.IsFaithful) (hdecode : Packet.decode entry.1 = .ok p)
    (hp : p.Searches c ids) (hown : p.destination = c.nodeId) (htopic : p.topic = .cmd)
    (hnamed : p.source.isBroadcast = false)
    (hopen : keys.unsealText p.associatedData p.payload = .ok text)
    (hanswer : answer = (c.nodeId, nextId s.draws)) :
    ∃ q : Packet,
      q = { Packet.fresh c.nodeId p.source .ack [] answer.2 with payload := q.payload } ∧
      q.Carries provider meshKey (Bytes.bigEndian 4 p.packetId.toNat) ∧
      (attend keys now s entry).router.Informed c ids p.key answer now (some p.lastHop) ∧
      (attend keys now s entry).router.handed = s.router.handed ++ [Delivery.ofPacket p text] ∧
      (attend keys now s entry).radio.outbox = s.radio.outbox ++
        [(q.copy 0 c.nodeId p.lastHop).frame] := by
  obtain ⟨hleads, _⟩ := h.accept hp hroom entry.2
  have hid := h.fits.nodeId
  have hfits : (attend keys now s entry).router.FitsConfig c :=
    h.fits.of_alike (alike_attend keys now s entry)
  have hknown : p.topic.isReserved = false := by rw [htopic]; rfl
  have hreply : p.topic.reply? = some .ack := by rw [htopic]; rfl
  obtain ⟨q, after, stats, hq, hcarries, hattend⟩ := attend_reply hdecode h.sends hkeys hfaithful
    h.listens h.still_new (hid ▸ hp.foreign) hp.plain (hown.trans hid.symm) hknown hopen
    hreply
  have hback : ((s.router.sweep now).accept p entry.2 now).nextHop q.destination = p.lastHop := by
    obtain ⟨e, hlookup, hnext, _⟩ := hleads.route
    unfold Router.nextHop
    rw [show q.destination = p.source by rw [hq]; rfl, hlookup]
    exact hnext
  have hsingle : q.isBroadcast = false := by
    unfold Packet.isBroadcast
    rw [show q.destination = p.source by rw [hq]; rfl]
    exact hnamed
  have hkey : q.key = answer := by
    rw [hanswer, hq, ← hid]
    rfl
  have hapart : answer ≠ p.key := by
    intro hsame
    exact hp.foreign ((congrArg Prod.fst (hsame.symm.trans hanswer)))
  have hunheard : ((s.router.sweep now).tracker.record p.key now).contains answer now = false :=
    DuplicateTracker.not_contains_record (DuplicateTracker.not_contains_evict h.unanswered) hapart
  have hobserve : (((s.router.sweep now).tracker.record p.key now).observe q.key now).2 =
      ((s.router.sweep now).tracker.record p.key now).record answer now := by
    unfold DuplicateTracker.observe
    rw [hkey, hunheard]
    rfl
  have htwo : 2 ≤ ((s.router.sweep now).tracker.record p.key now).capacity := by
    have hcap := h.swept.1.capacity
    change 2 ≤ (s.router.sweep now).tracker.capacity
    rw [hcap]
    exact Nat.le_trans hcapacity (Nat.le_max_left _ _)
  rw [hback, hsingle, hobserve, hid] at hattend
  rw [hattend] at hfits ⊢
  refine ⟨q, ?_, ?_, ⟨hfits, ⟨[answer], List.Subset.refl _, ?_⟩, ?_⟩, rfl, rfl⟩
  · rw [hanswer, ← hid]
    exact hq
  · exact hcarries
  · exact (h.swept.1.remembers hvalid h.still_new).record_other htwo
      (Ne.symm hapart) (List.nil_subset _) hunheard
  · intro next hnext
    cases hnext
    exact hleads

/-! ## The answer -/

/-- A relay that hears an answer for the first time sends it on by the way that it
knows. -/
theorem attend_return {next : NodeId} (keys : KeyRing)
    (h : s.router.Informed c ids key p.key stamp (some next))
    (hnew : s.router.tracker.contains p.key now = false)
    (hlasts : c.Lasts (now - stamp)) (hvalid : c.IsValid) (hcapacity : 2 ≤ c.dedupCapacity.toNat)
    (hrelays : c.relayEnabled = true) (hsends : s.radio.sendFault = none)
    (hdecode : Packet.decode entry.1 = .ok p) (hp : p.Returns c ids key.1) :
    (attend keys now s entry).router.Answered c ids key p.key stamp now (some next) ∧
      (attend keys now s entry).router.handed = s.router.handed ∧
      (attend keys now s entry).radio.outbox = s.radio.outbox ++
        [(p.copy (p.hopCount + 1) c.nodeId next).frame] := by
  have hid := h.fits.nodeId
  have hswept := h.sweep hlasts
  have hfits : (attend keys now s entry).router.FitsConfig c :=
    h.fits.of_alike (alike_attend keys now s entry)
  have hunheard : (s.router.sweep now).tracker.contains p.key now = false :=
    DuplicateTracker.not_contains_evict hnew
  have hwithin : p.hopCount < s.router.maxHops := h.fits.maxHops ▸ hp.within
  have hmine : s.router.isOverheard p = false := by
    unfold Router.isOverheard
    rw [hp.next, hid, bne_self_eq_false]
    simp only [Bool.and_false, Bool.false_and]
  obtain ⟨stats, hforward⟩ := attend_forward keys hdecode hsends (h.fits.relayEnabled.trans hrelays)
    hmine hunheard (hid ▸ hp.foreign) hp.plain hp.one (hid ▸ hp.away) hwithin
  have hleads : ((s.router.sweep now).accept p entry.2 now).table.Leads ids key.1 next stamp := by
    unfold Router.accept
    refine Router.leads_learn ?_ hp.source hp.last hp.other hp.relay entry.2 now
    exact hswept.leads next rfl
  have hon : ((s.router.sweep now).accept p entry.2 now).nextHop p.destination = next := by
    obtain ⟨e, hlookup, hnext, _⟩ := hleads.route
    unfold Router.nextHop
    rw [hp.destination, hlookup]
    exact hnext
  rw [hon, hid] at hforward
  rw [hforward] at hfits ⊢
  refine ⟨hswept.answered hvalid hcapacity ?_ hunheard hfits rfl ?_, rfl, rfl⟩
  · exact fun hsame => hp.other (congrArg Prod.fst hsame)
  · rintro _ ⟨rfl⟩
    exact hleads

/-- The node that the answer is for hands it over when it hears it for the first time. -/
theorem attend_home (keys : KeyRing) (h : s.router.Informed c ids key p.key stamp none)
    (hnew : s.router.tracker.contains p.key now = false)
    (hlasts : c.Lasts (now - stamp)) (hvalid : c.IsValid) (hcapacity : 2 ≤ c.dedupCapacity.toNat)
    (hlistens : s.router.hasHandler = true) (hdecode : Packet.decode entry.1 = .ok p)
    (hown : p.destination = c.nodeId) (hforeign : p.source ≠ c.nodeId) (hkey : key.1 = c.nodeId)
    (htopic : p.topic = .ack) (hopen : keys.unsealText p.associatedData p.payload = .ok text) :
    (attend keys now s entry).router.Answered c ids key p.key stamp now none ∧
      (attend keys now s entry).router.handed = s.router.handed ++ [Delivery.ofPacket p text] ∧
      (attend keys now s entry).radio.outbox = s.radio.outbox := by
  have hid := h.fits.nodeId
  have hswept := h.sweep hlasts
  have hfits : (attend keys now s entry).router.FitsConfig c :=
    h.fits.of_alike (alike_attend keys now s entry)
  have hunheard : (s.router.sweep now).tracker.contains p.key now = false :=
    DuplicateTracker.not_contains_evict hnew
  obtain ⟨table, stats, hdeliver⟩ := attend_own hdecode hlistens hunheard (hid ▸ hforeign)
    (by rw [htopic]; rfl) (hown.trans hid.symm) (by rw [htopic]; rfl) hopen (by rw [htopic]; rfl)
  rw [hdeliver] at hfits ⊢
  refine ⟨hswept.answered hvalid hcapacity ?_ hunheard hfits rfl ?_, rfl, rfl⟩
  · exact fun hsame => hforeign ((congrArg Prod.fst hsame.symm).trans hkey)
  · exact fun next hnext => absurd hnext (Option.not_mem_none next)

theorem attend_answered (keys : KeyRing) (hlasts : c.Lasts (now - stamp)) (hvalid : c.IsValid)
    (hdecode : Packet.decode entry.1 = .ok p)
    (hp : p.key = key ∨ p.key = answer ∨ p.PassesBy c.nodeId ids key.1)
    (h : s.router.Answered c ids key answer stamp now way) :
    (attend keys now s entry).router.Answered c ids key answer stamp now way ∧
      s.Stays (attend keys now s entry) := by
  have hswept := h.sweep hlasts hvalid
  have hcases : (s.router.sweep now).tracker.contains p.key now = true ∨
      p.PassesBy s.router.nodeId ids key.1 := by
    rcases hp with hkey | hanswer | hpasses
    · exact .inl (hkey ▸ hswept.toInformed.contains hlasts)
    · exact .inl (hanswer ▸ hswept.contains hvalid)
    · exact .inr (h.fits.nodeId ▸ hpasses)
  obtain ⟨htracker, hleads, hstays⟩ := attend_idle keys hdecode hcases
  refine ⟨⟨hswept.toInformed.congr (h.fits.of_alike (alike_attend keys now s entry)) htracker
    fun next => hleads next stamp, ?_⟩, hstays⟩
  rw [htracker]
  exact hswept.heard

/-- Since this start the station has only heard what is idle. -/
structure Pending (c : Config) (ids : List NodeId) (key answer : MessageKey) (stamp now : Nat)
    (way : Option NodeId) (start s : Station) : Prop where
  informed : s.router.Informed c ids key answer stamp way
  unanswered : s.router.tracker.contains answer now = false
  fault : s.radio.sendFault = start.radio.sendFault
  handler : s.router.hasHandler = start.router.hasHandler
  stays : start.Stays s

/-- Since then the answer has come once, with this to hand over and this to send. -/
structure Settled (c : Config) (ids : List NodeId) (key answer : MessageKey) (stamp now : Nat)
    (way : Option NodeId) (start : Station) (deliveries : List Delivery) (frames : List Bytes)
    (s : Station) : Prop where
  answered : s.router.Answered c ids key answer stamp now way
  handed : s.router.handed = start.router.handed ++ deliveries
  outbox : s.radio.outbox = start.radio.outbox ++ frames

theorem Pending.idle {start : Station} (keys : KeyRing) (hlasts : c.Lasts (now - stamp))
    (hidle : IsIdle c ids key entry) (h : Pending c ids key answer stamp now way start s) :
    Pending c ids key answer stamp now way start (attend keys now s entry) := by
  obtain ⟨hinformed, hnew, hstays⟩ := attend_informed keys hlasts hidle h.informed
  obtain ⟨outbox, hradio⟩ := attend_radio keys now s entry
  refine ⟨hinformed, hnew now h.unanswered, ?_, ?_, h.stays.trans hstays⟩
  · rw [hradio]
    exact h.fault
  · exact (alike_attend keys now s entry).hasHandler.trans h.handler

theorem Settled.still {start : Station} {deliveries : List Delivery} {frames : List Bytes}
    (keys : KeyRing) (hlasts : c.Lasts (now - stamp)) (hvalid : c.IsValid)
    (hdecode : Packet.decode entry.1 = .ok p)
    (hp : p.key = key ∨ p.key = answer ∨ p.PassesBy c.nodeId ids key.1)
    (h : Settled c ids key answer stamp now way start deliveries frames s) :
    Settled c ids key answer stamp now way start deliveries frames (attend keys now s entry) := by
  obtain ⟨hanswered, hstays⟩ := attend_answered keys hlasts hvalid hdecode hp h.answered
  exact ⟨hanswered, hstays.handed.trans h.handed, hstays.outbox.trans h.outbox⟩

theorem Settled.all_still {start : Station} {deliveries : List Delivery} {frames : List Bytes}
    {entries : List (Bytes × Int16)} (keys : KeyRing) (hlasts : c.Lasts (now - stamp))
    (hvalid : c.IsValid)
    (hentries : ∀ entry ∈ entries, ∃ p, Packet.decode entry.1 = .ok p ∧
      (p.key = key ∨ p.key = answer ∨ p.PassesBy c.nodeId ids key.1))
    (h : Settled c ids key answer stamp now way start deliveries frames s) :
    Settled c ids key answer stamp now way start deliveries frames
      (entries.foldl (attend keys now) s) := by
  induction entries generalizing s with
  | nil => exact h
  | cons entry entries ih =>
    obtain ⟨p, hdecode, hp⟩ := hentries entry List.mem_cons_self
    exact ih (fun e he => hentries e (List.mem_cons_of_mem entry he))
      (h.still keys hlasts hvalid hdecode hp)

/-- Among all that a station hears, only the first copy of the answer that is for it
makes a difference. -/
theorem attend_all_answer {start : Station} {deliveries : List Delivery} {frames : List Bytes}
    {entries : List (Bytes × Int16)} {T : Bytes × Int16 → Prop} (keys : KeyRing)
    (hlasts : c.Lasts (now - stamp)) (hvalid : c.IsValid)
    (hidle : ∀ entry ∈ entries, ¬T entry → IsIdle c ids key entry)
    (hcopy : ∀ entry ∈ entries, T entry → ∃ p, Packet.decode entry.1 = .ok p ∧ p.key = answer)
    (hturn : ∀ s, ∀ entry ∈ entries, T entry →
      Pending c ids key answer stamp now way start s →
      Settled c ids key answer stamp now way start deliveries frames (attend keys now s entry))
    (h : Pending c ids key answer stamp now way start s) :
    Pending c ids key answer stamp now way start (entries.foldl (attend keys now) s) ∧
        (∀ entry ∈ entries, ¬T entry) ∨
      Settled c ids key answer stamp now way start deliveries frames
        (entries.foldl (attend keys now) s) := by
  induction entries generalizing s with
  | nil => exact .inl ⟨h, fun _ he => absurd he List.not_mem_nil⟩
  | cons entry entries ih =>
    by_cases ht : T entry
    · have hrest : ∀ e ∈ entries, ∃ p, Packet.decode e.1 = .ok p ∧
          (p.key = key ∨ p.key = answer ∨ p.PassesBy c.nodeId ids key.1) := by
        intro e he
        by_cases hte : T e
        · obtain ⟨p, hdecode, hkey⟩ := hcopy e (List.mem_cons_of_mem entry he) hte
          exact ⟨p, hdecode, .inr (.inl hkey)⟩
        · obtain ⟨p, hdecode, hp⟩ := hidle e (List.mem_cons_of_mem entry he) hte
          exact ⟨p, hdecode, hp.imp_right .inr⟩
      have hlast := (hturn s entry List.mem_cons_self ht h).all_still keys hlasts hvalid hrest
      exact .inr hlast
    · have hlater := ih (fun e he => hidle e (List.mem_cons_of_mem entry he))
        (fun e he => hcopy e (List.mem_cons_of_mem entry he))
        (fun s e he => hturn s e (List.mem_cons_of_mem entry he))
        (h.idle keys hlasts (hidle entry List.mem_cons_self ht))
      exact hlater.imp_left fun hpending =>
        ⟨hpending.1, List.forall_mem_cons.mpr ⟨ht, hpending.2⟩⟩

/-- A copy of this packet that has come so far, from another relay to this node. -/
def IsReturn (ids : List NodeId) (node own : NodeId) (q : Packet) (hop : UInt8)
    (entry : Bytes × Int16) : Prop :=
  ∃ last, last ∈ ids ∧ node ≠ last ∧ entry.1 = (q.copy hop last own).frame

theorem IsReturn.exists_key {provider : CryptoProvider} {meshKey : MeshKey} {body : Bytes}
    {q : Packet} {hop : UInt8} {node own : NodeId} (hq : q.Carries provider meshKey body)
    (h : IsReturn ids node own q hop entry) :
    ∃ p, Packet.decode entry.1 = .ok p ∧ p.key = q.key := by
  obtain ⟨last, _, _, hframe⟩ := h
  exact hq.key_of_frame hframe

section Answer

variable {provider : CryptoProvider} {meshKey : MeshKey} {body : Bytes} {q : Packet} {hop : UInt8}
variable {entries : List (Bytes × Int16)}

/-- A relay sends on one copy of the answers that are for it. -/
theorem attend_all_return {next : NodeId} (keys : KeyRing)
    (hq : q.Carries provider meshKey body) (hone : q.isBroadcast = false)
    (hdestination : q.destination = key.1) (haway : key.1 ≠ c.nodeId) (hsource : q.source ∈ ids)
    (hforeign : q.source ≠ c.nodeId) (hother : key.1 ≠ q.source) (hwithin : hop < c.maxHops)
    (hentries : ∀ entry ∈ entries, ¬IsReturn ids key.1 c.nodeId q hop entry →
      IsIdle c ids key entry)
    (hlasts : c.Lasts (now - stamp)) (hvalid : c.IsValid) (hcapacity : 2 ≤ c.dedupCapacity.toNat)
    (hrelays : c.relayEnabled = true) (hsends : s.radio.sendFault = none)
    (h : s.router.Informed c ids key q.key stamp (some next))
    (hnew : s.router.tracker.contains q.key now = false) :
    Pending c ids key q.key stamp now (some next) s (entries.foldl (attend keys now) s) ∧
        (∀ entry ∈ entries, ¬IsReturn ids key.1 c.nodeId q hop entry) ∨
      Settled c ids key q.key stamp now (some next) s []
        [(q.copy (hop + 1) c.nodeId next).frame] (entries.foldl (attend keys now) s) := by
  refine attend_all_answer keys hlasts hvalid hentries (fun _ _ ht => ht.exists_key hq) ?_
    ⟨h, hnew, rfl, rfl, rfl, rfl, rfl⟩
  rintro st entry _ ⟨last, hlast, hrelay, hframe⟩ hst
  have hdecode : Packet.decode entry.1 = .ok (q.copy hop last c.nodeId) := by
    rw [hframe]
    exact hq.decode hop last c.nodeId
  obtain ⟨hanswered, hhanded, houtbox⟩ := attend_return keys (p := q.copy hop last c.nodeId)
    hst.informed hst.unanswered hlasts hvalid hcapacity hrelays (hst.fault.trans hsends)
    hdecode
    ⟨hq.plain, hone, rfl, hdestination, hdestination ▸ haway, hsource, hlast, hforeign, hother,
      hrelay, hwithin⟩
  refine ⟨hanswered, ?_, ?_⟩
  · rw [hhanded, hst.stays.handed, List.append_nil]
  · rw [houtbox, hst.stays.outbox]
    rfl

/-- A copy of this packet that has come so far. -/
def IsCopy (q : Packet) (hop : UInt8) (entry : Bytes × Int16) : Prop :=
  ∃ last next, entry.1 = (q.copy hop last next).frame

/-- The node that waits for an answer hands one copy of it over. -/
theorem attend_all_home (keys : KeyRing) (hq : q.Carries provider meshKey body)
    (hkeys : keys.Holds provider meshKey) (htopic : q.topic = .ack)
    (hdestination : q.destination = c.nodeId) (hforeign : q.source ≠ c.nodeId)
    (hkey : key.1 = c.nodeId)
    (hentries : ∀ entry ∈ entries, ¬IsCopy q hop entry → IsIdle c ids key entry)
    (hlasts : c.Lasts (now - stamp)) (hvalid : c.IsValid) (hcapacity : 2 ≤ c.dedupCapacity.toNat)
    (hlistens : s.router.hasHandler = true)
    (h : s.router.Informed c ids key q.key stamp none)
    (hnew : s.router.tracker.contains q.key now = false) :
    Pending c ids key q.key stamp now none s (entries.foldl (attend keys now) s) ∧
        (∀ entry ∈ entries, ¬IsCopy q hop entry) ∨
      Settled c ids key q.key stamp now none s
        [{ Delivery.ofPacket q body with hopCount := hop }] []
        (entries.foldl (attend keys now) s) := by
  refine attend_all_answer keys hlasts hvalid hentries ?_ ?_ ⟨h, hnew, rfl, rfl, rfl, rfl, rfl⟩
  · rintro entry _ ⟨last, next, hframe⟩
    exact hq.key_of_frame hframe
  · rintro st entry _ ⟨last, next, hframe⟩ hst
    have hdecode : Packet.decode entry.1 = .ok (q.copy hop last next) := by
      rw [hframe]
      exact hq.decode hop last next
    obtain ⟨hanswered, hhanded, houtbox⟩ := attend_home (p := q.copy hop last next) keys
      hst.informed hst.unanswered hlasts hvalid hcapacity (hst.handler.trans hlistens)
      hdecode hdestination hforeign hkey htopic (hq.opens keys hkeys)
    refine ⟨hanswered, ?_, ?_⟩
    · rw [hhanded, hst.stays.handed]
      rfl
    · rw [houtbox, hst.stays.outbox, List.append_nil]

/-! ## Elsewhere -/

/-- A station that is not on the way sends nothing but copies of the request. -/
theorem attend_all_away {own node : NodeId} (keys : KeyRing) (hq : q.Carries provider meshKey body)
    (hone : q.isBroadcast = false) (haway : q.destination ≠ own)
    (hentries : ∀ entry ∈ entries, q.HasCopy entry.1 ∨
      ∃ p, Packet.decode entry.1 = .ok p ∧ p.PassesBy own ids node)
    (hown : s.router.nodeId = own) (hsent : ∀ frame ∈ s.radio.outbox, q.HasCopy frame) :
    ∀ frame ∈ (entries.foldl (attend keys now) s).radio.outbox, q.HasCopy frame := by
  induction entries generalizing s with
  | nil => exact hsent
  | cons entry entries ih =>
    refine ih (fun e he => hentries e (List.mem_cons_of_mem entry he))
      ((alike_attend keys now s entry).nodeId.trans hown) ?_
    intro frame hframe
    rcases hentries entry List.mem_cons_self with ⟨hop, last, next, hcopy⟩ | ⟨p, hdecode, hpasses⟩
    · have hdecode : Packet.decode entry.1 = .ok (q.copy hop last next) := by
        rw [hcopy]
        exact hq.decode hop last next
      obtain ⟨frames, houtbox, hframes⟩ : ∃ frames, (attend keys now s entry).radio.outbox =
          s.radio.outbox ++ frames ∧ ∀ frame ∈ frames, (q.copy hop last next).HasCopy frame :=
        attend_away keys hdecode hone fun h => haway (h.trans hown)
      rw [houtbox] at hframe
      rcases List.mem_append.mp hframe with hbefore | hmore
      · exact hsent frame hbefore
      · exact hframes frame hmore
    · rw [attend_overheard hdecode (hpasses.overheard s.router hown)] at hframe
      exact hsent frame hframe

end Answer

end Station
end Meshwork
