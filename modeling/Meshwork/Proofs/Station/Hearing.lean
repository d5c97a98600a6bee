import Meshwork.Proofs.Router.Verdicts
import Meshwork.Proofs.Station.Working

/-!
# Frames out of an inbox

A station that empties its inbox forgets what is past its time before each frame,
and routes the frame then. A frame that was heard before, or that another relay is
to take, moves no message.
-/

namespace Meshwork
set_option autoImplicit false

namespace Station

variable {s : Station} {p : Packet} {keys : KeyRing} {now : Nat} {entry : Bytes × Int16}

theorem route_fresh {frame : Bytes} (hdecode : Packet.decode frame = .ok p)
    (hmine : s.router.isOverheard p = false)
    (hnew : s.router.tracker.contains p.key now = false) (hother : p.source ≠ s.router.nodeId)
    (rssi : Int16) (keys : KeyRing) :
    s.route frame rssi now keys =
      { s with router := s.router.accept p rssi now : Station }.dispatch p now keys := by
  have hscreen := Router.screen_fresh hdecode hmine hnew hother rssi
  unfold route
  rw [hscreen]

/-- A station about to handle the first frame of its inbox. -/
def awake (s : Station) (now : Nat) (rssi : Int16) : Station :=
  { s with
    router := s.router.sweep now
    radio := { s.radio with inbox := s.radio.inbox.tail, rssi := rssi } }

def attend (keys : KeyRing) (now : Nat) (s : Station) (entry : Bytes × Int16) : Station :=
  ((s.awake now entry.2).route entry.1 entry.2 now keys).2

theorem attend_radio (keys : KeyRing) (now : Nat) (s : Station) (entry : Bytes × Int16) :
    ∃ outbox, (attend keys now s entry).radio =
      { s.radio with inbox := s.radio.inbox.tail, rssi := entry.2, outbox := outbox } :=
  route_radio (s.awake now entry.2) entry.1 entry.2 now keys

theorem alike_attend (keys : KeyRing) (now : Nat) (s : Station) (entry : Bytes × Int16) :
    s.router.Alike (attend keys now s entry).router :=
  (s.router.forgets_sweep now).toAlike.trans
    ((s.awake now entry.2).alike_route entry.1 entry.2 now keys)

theorem attend_duplicate (hdecode : Packet.decode entry.1 = .ok p)
    (hmine : s.router.isOverheard p = false)
    (hknown : (s.router.sweep now).tracker.contains p.key now = true) :
    ∃ stats, attend keys now s entry =
      { s.awake now entry.2 with router := { s.router.sweep now with stats := stats } } := by
  have hscreen := Router.screen_duplicate (r := s.router.sweep now) hdecode hmine hknown entry.2
  refine ⟨{ s.router.stats with
    received := s.router.stats.received + 1
    duplicates := s.router.stats.duplicates + 1 }, ?_⟩
  unfold attend route
  rw [show (s.awake now entry.2).router = s.router.sweep now from rfl, hscreen]
  rfl

theorem attend_overheard (hdecode : Packet.decode entry.1 = .ok p)
    (hpassing : s.router.isOverheard p = true) :
    attend keys now s entry = { s.awake now entry.2 with
      router := { s.router.sweep now with
        stats.received := s.router.stats.received + 1 : Router }.overhear p entry.2 now } := by
  have hscreen := Router.screen_overheard (r := s.router.sweep now) hdecode hpassing entry.2 now
  unfold attend route
  rw [show (s.awake now entry.2).router = s.router.sweep now from rfl, hscreen]
  rfl

/-- A message that is known is counted, whoever is to take it. -/
theorem attend_known (hdecode : Packet.decode entry.1 = .ok p)
    (hknown : (s.router.sweep now).tracker.contains p.key now = true) :
    ∃ stats, attend keys now s entry =
      { s.awake now entry.2 with router := { s.router.sweep now with stats := stats } } := by
  by_cases hpassing : s.router.isOverheard p = true
  · rw [attend_overheard hdecode hpassing]
    refine ⟨{ s.router.stats with received := s.router.stats.received + 1 }, ?_⟩
    rw [Router.overhear_known (r := { s.router.sweep now with
      stats.received := s.router.stats.received + 1 }) hknown]
    rfl
  · exact attend_duplicate hdecode (Bool.not_eq_true _ ▸ hpassing) hknown

/-- A station has moved no message and drawn nothing. -/
structure Stays (s s' : Station) : Prop where
  handed : s'.router.handed = s.router.handed
  outbox : s'.radio.outbox = s.radio.outbox
  draws : s'.draws = s.draws

theorem Stays.trans {s' s'' : Station} (h : s.Stays s') (h' : s'.Stays s'') : s.Stays s'' :=
  ⟨h'.handed.trans h.handed, h'.outbox.trans h.outbox, h'.draws.trans h.draws⟩

/-- While all messages in the inbox are known, what the router keeps as it forgets
is kept. -/
theorem attend_echoes (keys : KeyRing) {I : Router → Prop} {entries : List (Bytes × Int16)}
    (hkept : ∀ r stats, I r → I { r.sweep now with stats := stats })
    (hknown : ∀ r, I r → ∀ entry ∈ entries, ∃ p, Packet.decode entry.1 = .ok p ∧
      (r.sweep now).tracker.contains p.key now = true)
    (h : I s.router) :
    I (entries.foldl (attend keys now) s).router ∧ s.Stays (entries.foldl (attend keys now) s) := by
  induction entries generalizing s with
  | nil => exact ⟨h, rfl, rfl, rfl⟩
  | cons entry entries ih =>
    obtain ⟨p, hdecode, hcontains⟩ := hknown s.router h entry List.mem_cons_self
    have hattend : ∃ stats, attend keys now s entry =
        { s.awake now entry.2 with router := { s.router.sweep now with stats := stats } } :=
      attend_known hdecode hcontains
    obtain ⟨stats, hfirst⟩ := hattend
    have hnext : I (attend keys now s entry).router := by
      rw [hfirst]
      exact hkept s.router stats h
    have hstays : s.Stays (attend keys now s entry) := by
      rw [hfirst]
      exact ⟨rfl, rfl, rfl⟩
    obtain ⟨hlast, hrest⟩ :=
      ih (fun r hr e he => hknown r hr e (List.mem_cons_of_mem entry he)) hnext
    exact ⟨hlast, hstays.trans hrest⟩

/-- Echoes of a message that is remembered are lost. -/
theorem attend_remembered (keys : KeyRing) {key : MessageKey} {stamp : Nat}
    {since : List MessageKey} {entries : List (Bytes × Int16)}
    (hknown : s.router.tracker.Remembers key stamp since)
    (hrecent : now - stamp < s.router.tracker.window)
    (hcopies : ∀ entry ∈ entries, ∃ p, Packet.decode entry.1 = .ok p ∧ p.key = key) :
    (entries.foldl (attend keys now) s).router.tracker.Remembers key stamp since ∧
      s.Stays (entries.foldl (attend keys now) s) := by
  have hheard := attend_echoes keys
    (I := fun r => r.tracker.Remembers key stamp since ∧ now - stamp < r.tracker.window)
    (fun _ _ h => ⟨h.1.evict h.2, h.2⟩)
    (fun r h entry hentry => by
      obtain ⟨p, hdecode, hkey⟩ := hcopies entry hentry
      exact ⟨p, hdecode, hkey ▸ (h.1.evict h.2).contains h.2⟩)
    ⟨hknown, hrecent⟩
  exact ⟨hheard.1.1, hheard.2⟩

/-- A new message of another node is recorded and learned from before it is handled. -/
theorem attend_fresh (keys : KeyRing) (hdecode : Packet.decode entry.1 = .ok p)
    (hmine : s.router.isOverheard p = false)
    (hnew : (s.router.sweep now).tracker.contains p.key now = false)
    (hother : p.source ≠ s.router.nodeId) :
    ∃ stats, attend keys now s entry = (dispatch { s.awake now entry.2 with
      router := { s.router.sweep now with
        tracker := (s.router.sweep now).tracker.record p.key now
        table := ((s.router.sweep now).accept p entry.2 now).table
        stats := stats } } p now keys).2 := by
  have hroute := route_fresh (s := s.awake now entry.2) hdecode hmine hnew hother entry.2 keys
  obtain ⟨stats, _, haccept⟩ := Router.accept_eq (s.router.sweep now) p entry.2 now
  refine ⟨stats, ?_⟩
  rw [← haccept]
  exact congrArg Prod.snd hroute

/-- A message for everybody that is new is recorded, handed over, and goes one hop
on while it may. -/
theorem attend_broadcast {text : Bytes} (hdecode : Packet.decode entry.1 = .ok p)
    (hradio : s.radio.sendFault = none) (hlistens : s.router.hasHandler = true)
    (hrelays : s.router.relayEnabled = true) (hnamed : s.router.nodeId.isReserved = false)
    (hnew : (s.router.sweep now).tracker.contains p.key now = false)
    (hother : p.source ≠ s.router.nodeId) (hplain : p.topic.isInclusion = false)
    (hknown : p.topic.isReserved = false) (hall : p.destination = .broadcast)
    (hopen : keys.unsealText p.associatedData p.payload = .ok text) :
    ∃ table stats, attend keys now s entry =
      { s.awake now entry.2 with
        router := { s.router.sweep now with
          tracker := (s.router.sweep now).tracker.record p.key now
          table := table
          stats := stats
          handed := s.router.handed ++ [Delivery.ofPacket p text] }
        radio := { (s.awake now entry.2).radio with outbox := s.radio.outbox ++
          if p.hopCount < s.router.maxHops then
            [(p.copy (p.hopCount + 1) s.router.nodeId .broadcast).frame]
          else [] } } := by
  have hmine : s.router.isOverheard p = false := by
    unfold Router.isOverheard Packet.isBroadcast
    rw [hall]
    simp [NodeId.isBroadcast]
  obtain ⟨stats, hfresh⟩ := attend_fresh keys hdecode hmine hnew hother
  rw [hfresh]
  obtain ⟨table, stats, hdispatch⟩ := dispatch_broadcast (s := { s.awake now entry.2 with
      router := { s.router.sweep now with
        tracker := (s.router.sweep now).tracker.record p.key now
        table := ((s.router.sweep now).accept p entry.2 now).table
        stats := stats } })
    hradio (Packet.fits_of_decode hdecode) hlistens hrelays hnamed hplain hknown hall hopen now
  exact ⟨table, stats, hdispatch⟩

/-- A message for another node that is new is recorded, and goes one hop on by the
route that is known after it, if one is. -/
theorem attend_forward (keys : KeyRing) (hdecode : Packet.decode entry.1 = .ok p)
    (hradio : s.radio.sendFault = none) (hrelays : s.router.relayEnabled = true)
    (hmine : s.router.isOverheard p = false)
    (hnew : (s.router.sweep now).tracker.contains p.key now = false)
    (hsource : p.source ≠ s.router.nodeId) (hplain : p.topic.isInclusion = false)
    (hone : p.isBroadcast = false) (haway : p.destination ≠ s.router.nodeId)
    (hwithin : p.hopCount < s.router.maxHops) :
    ∃ stats, attend keys now s entry =
      { s.awake now entry.2 with
        router := { s.router.sweep now with
          tracker := (s.router.sweep now).tracker.record p.key now
          table := ((s.router.sweep now).accept p entry.2 now).table
          stats := stats }
        radio := { (s.awake now entry.2).radio with outbox := s.radio.outbox ++
          [(p.copy (p.hopCount + 1) s.router.nodeId
            (((s.router.sweep now).accept p entry.2 now).nextHop p.destination)).frame] } } := by
  obtain ⟨stats, hfresh⟩ := attend_fresh keys hdecode hmine hnew hsource
  obtain ⟨stats', hforward⟩ := dispatch_forward (s := { s.awake now entry.2 with
      router := { s.router.sweep now with
        tracker := (s.router.sweep now).tracker.record p.key now
        table := ((s.router.sweep now).accept p entry.2 now).table
        stats := stats } })
    hradio (Packet.fits_of_decode hdecode) hrelays hplain hone haway hmine hwithin now keys
  refine ⟨stats', ?_⟩
  rw [hfresh]
  exact hforward

theorem airs_dispatch_away (s : Station) (hone : p.isBroadcast = false)
    (haway : p.destination ≠ s.router.nodeId) (now : Nat) (keys : KeyRing) :
    Airs (p.PassedOn s.router.nodeId s.router.maxHops) s (s.dispatch p now keys).2 := by
  unfold dispatch
  split
  · exact .silent rfl
  · rw [hone]
    exact s.airs_forward p

/-- Whatever becomes of a message for another node, nothing but copies of it goes on the air. -/
theorem attend_away (keys : KeyRing) (hdecode : Packet.decode entry.1 = .ok p)
    (hone : p.isBroadcast = false) (haway : p.destination ≠ s.router.nodeId) :
    ∃ frames, (attend keys now s entry).radio.outbox = s.radio.outbox ++ frames ∧
      ∀ frame ∈ frames, p.HasCopy frame := by
  unfold attend route
  cases hscreen : (s.awake now entry.2).router.screen entry.1 entry.2 now with
  | mk result router =>
    cases result with
    | error reason =>
      exact ⟨[], (List.append_nil _).symm, fun _ hframe => absurd hframe List.not_mem_nil⟩
    | ok q =>
      have hpassed : ((s.awake now entry.2).router.screen entry.1 entry.2 now).1 = .ok q := by
        rw [hscreen]
      obtain ⟨hq, _⟩ := Router.screen_eq_ok_iff.mp hpassed
      rw [hdecode] at hq
      cases hq
      have hnode := ((s.awake now entry.2).router.alike_screen entry.1 entry.2 now).nodeId
      rw [hscreen] at hnode
      have hair := airs_dispatch_away { s.awake now entry.2 with router := router } hone
        (fun h => haway (h.trans hnode)) now keys
      simp only
      cases hair with
      | silent hradio =>
        rw [hradio]
        exact ⟨[], (List.append_nil _).symm, fun _ hframe => absurd hframe List.not_mem_nil⟩
      | aired q frame hpacket hencode hradio =>
        obtain ⟨_, next, rfl⟩ := hpacket
        obtain ⟨_, _, hframe⟩ := Packet.encode_eq_ok_iff.mp hencode
        rw [hradio]
        refine ⟨[frame], rfl, fun f hf => ⟨p.hopCount + 1, router.nodeId, next, ?_⟩⟩
        exact (List.mem_singleton.mp hf).trans hframe

theorem not_isOverheard_own {r : Router} (hown : p.destination = r.nodeId) :
    r.isOverheard p = false := by
  unfold Router.isOverheard
  rw [hown, bne_self_eq_false]
  simp only [Bool.and_false, Bool.false_and]

theorem isOverheard_of_ne {r : Router} (hplain : p.topic.isInclusion = false)
    (hone : p.isBroadcast = false) (haway : p.destination ≠ r.nodeId) (hnext : p.nextHop ≠ r.nodeId)
    (hnamed : p.nextHop.isBroadcast = false) : r.isOverheard p = true := by
  unfold Router.isOverheard
  rw [hplain, hone, bne_iff_ne.mpr haway, bne_iff_ne.mpr hnext, hnamed]
  rfl

/-- A message for this node alone that is new and asks for no answer. -/
theorem attend_own {text : Bytes} (hdecode : Packet.decode entry.1 = .ok p)
    (hlistens : s.router.hasHandler = true)
    (hnew : (s.router.sweep now).tracker.contains p.key now = false)
    (hsource : p.source ≠ s.router.nodeId) (hplain : p.topic.isInclusion = false)
    (hown : p.destination = s.router.nodeId) (hknown : p.topic.isReserved = false)
    (hopen : keys.unsealText p.associatedData p.payload = .ok text)
    (hnone : p.topic.reply? = none) :
    ∃ table stats, attend keys now s entry =
      { s.awake now entry.2 with
        router := { s.router.sweep now with
          tracker := (s.router.sweep now).tracker.record p.key now
          table := table
          stats := stats
          handed := s.router.handed ++ [Delivery.ofPacket p text] } } := by
  obtain ⟨stats, hfresh⟩ := attend_fresh keys hdecode (not_isOverheard_own hown) hnew hsource
  obtain ⟨table, stats, hdeliver⟩ := deliverUnicast_eq (s := { s.awake now entry.2 with
      router := { s.router.sweep now with
        tracker := (s.router.sweep now).tracker.record p.key now
        table := ((s.router.sweep now).accept p entry.2 now).table
        stats := stats } }) hlistens hknown hopen hnone now
  refine ⟨table, stats, ?_⟩
  rw [hfresh]
  refine Eq.trans (congrArg Prod.snd ?_) hdeliver
  refine dispatch_own hplain ?_ now keys
  exact hown

/-- A message for this node alone that is new and is answered at once, by the route
that it has taught. -/
theorem attend_reply {provider : CryptoProvider} {key : MeshKey} {text : Bytes} {reply : Topic}
    (hdecode : Packet.decode entry.1 = .ok p) (hradio : s.radio.sendFault = none)
    (hkeys : keys.Holds provider key) (hfaithful : provider.IsFaithful)
    (hlistens : s.router.hasHandler = true)
    (hnew : (s.router.sweep now).tracker.contains p.key now = false)
    (hsource : p.source ≠ s.router.nodeId) (hplain : p.topic.isInclusion = false)
    (hown : p.destination = s.router.nodeId) (hknown : p.topic.isReserved = false)
    (hopen : keys.unsealText p.associatedData p.payload = .ok text)
    (hreply : p.topic.reply? = some reply) :
    ∃ (q : Packet) (after : Draws) (stats : MeshStats),
      q = { s.header p.source reply with payload := q.payload } ∧
      q.Carries provider key (replyBody p reply) ∧
      attend keys now s entry =
        { s.awake now entry.2 with
          draws := after
          router := { s.router.sweep now with
            tracker := (((s.router.sweep now).tracker.record p.key now).observe q.key now).2
            table := ((s.router.sweep now).accept p entry.2 now).table
            stats := stats
            handed := s.router.handed ++ [Delivery.ofPacket p text] }
          radio := { (s.awake now entry.2).radio with outbox := s.radio.outbox ++
            [(q.copy 0 s.router.nodeId (if q.isBroadcast then .broadcast else
              ((s.router.sweep now).accept p entry.2 now).nextHop q.destination)).frame] } } := by
  obtain ⟨stats, hfresh⟩ := attend_fresh keys hdecode (not_isOverheard_own hown) hnew hsource
  obtain ⟨q, after, stats', hq, hcarries, hdeliver⟩ := deliverUnicast_reply
    (s := { s.awake now entry.2 with
      router := { s.router.sweep now with
        tracker := (s.router.sweep now).tracker.record p.key now
        table := ((s.router.sweep now).accept p entry.2 now).table
        stats := stats } }) hradio hkeys hfaithful hlistens hknown hopen hreply now
  refine ⟨q, after, stats', hq, hcarries, ?_⟩
  rw [hfresh]
  refine Eq.trans (congrArg Prod.snd ?_) hdeliver
  refine dispatch_own hplain ?_ now keys
  exact hown

end Station
end Meshwork
