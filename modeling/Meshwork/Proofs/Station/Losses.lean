import Meshwork.Proofs.Route.Eviction
import Meshwork.Proofs.Router.Verdicts
import Meshwork.Proofs.Station.Chains
import Meshwork.Proofs.Station.Following

/-!
# Which routes a frame takes away

A frame first teaches its routes, each of which may push another out of a full table, and
then may say goodbye. Only a goodbye that opens under the mesh key is heeded, and it is
heeded last, so that it also takes what the same frame has taught.
-/

namespace Meshwork
set_option autoImplicit false

namespace RouteTable

variable {t : RouteTable} {destination other lost nextHop : NodeId} {hopCount : UInt8}
variable {rssi : Int16} {now : Nat}

/-! ## Losing a route -/

/-- A full table has given up its worst route, the one to a node that it now has lost, for a
new one to a node that it did not know. -/
structure GaveUp (t t' : RouteTable) (now : Nat) (lost taken : NodeId) : Prop where
  full : t.maxRoutes ≤ t.size
  new : t.lookup taken = none
  taken : ∃ e, t'.lookup taken = some e ∧ e.lastSeen = now
  worst : ∃ e ∈ t.routes, e.destination = lost ∧
    ∀ r ∈ t.routes, r.standing now t.timeout ≤ e.standing now t.timeout
  gone : t'.lookup lost = none

theorem lookup_remove_self (t : RouteTable) (destination : NodeId) :
    (t.remove destination).2.lookup destination = none :=
  lookup_eq_none_iff.mpr fun _ he => bne_iff_ne.mp (List.mem_filter.mp he).2

theorem lookup_remove_ne (t : RouteTable) (hne : other ≠ destination) :
    (t.remove destination).2.lookup other = t.lookup other := by
  unfold lookup remove eraseRoute
  rw [List.find?_filter]
  congr 1
  funext e
  by_cases hother : e.destination = other
  · simp [hother, hne]
  · simp [hother]

theorem lost_remove (hknown : t.lookup lost ≠ none)
    (hlost : (t.remove destination).2.lookup lost = none) : destination = lost := by
  by_contra hne
  rw [t.lookup_remove_ne (Ne.symm hne)] at hlost
  exact hknown hlost

theorem lost_evictWorst (hknown : t.lookup lost ≠ none)
    (hlost : (t.evictWorst now).lookup lost = none) :
    ∃ e ∈ t.routes, e.destination = lost ∧
      ∀ r ∈ t.routes, r.standing now t.timeout ≤ e.standing now t.timeout := by
  unfold evictWorst at hlost
  cases hworst : worst? now t.timeout t.routes with
  | none =>
    rw [hworst] at hlost
    exact absurd hlost hknown
  | some e =>
    rw [hworst] at hlost
    obtain ⟨hmem, hstanding⟩ := worst?_eq_some hworst
    exact ⟨e, hmem, lost_remove hknown hlost, hstanding⟩

/-- An offer that costs a route is one to a node unknown to a full table. -/
theorem lost_update (hknown : t.lookup lost ≠ none)
    (hlost : (t.update destination nextHop hopCount rssi now).2.lookup lost = none) :
    t.GaveUp (t.update destination nextHop hopCount rssi now).2 now lost destination := by
  cases hlookup : t.lookup destination with
  | some existing =>
    have hover : ∀ r : Route, r.destination = destination → (t.put r).lookup lost ≠ none := by
      rintro r rfl
      by_cases hsame : lost = r.destination
      · rw [hsame, lookup_put_self]
        exact Option.some_ne_none r
      · rw [lookup_put_ne t hsame]
        exact hknown
    unfold update at hlost
    simp only at hlost
    rw [hlookup] at hlost
    simp only at hlost
    split at hlost
    · exact absurd hlost (hover _ rfl)
    · exact absurd hlost hknown
  | none =>
    have hother : lost ≠ destination := by
      rintro rfl
      exact hknown hlookup
    by_cases hfull : t.maxRoutes ≤ t.size
    · have hupdate := update_full hlookup hfull nextHop hopCount rssi now
      rw [hupdate] at hlost ⊢
      refine ⟨hfull, hlookup, ⟨_, lookup_put_self _ _, rfl⟩, ?_, hlost⟩
      rw [lookup_put_ne _ hother] at hlost
      exact lost_evictWorst hknown hlost
    · have hupdate := update_new hlookup (Nat.lt_of_not_le hfull) nextHop hopCount rssi now
      rw [hupdate, lookup_put_ne _ hother] at hlost
      exact absurd hlost hknown

end RouteTable

namespace Router

variable {r r' : Router} {p : Packet} {frame : Bytes} {rssi : Int16} {now : Nat} {lost : NodeId}

/-! ## What a frame teaches -/

theorem table_learn_congr (hnode : r'.nodeId = r.nodeId) (hlimit : r'.maxHops = r.maxHops)
    (htable : r'.table = r.table) (p : Packet) (rssi : Int16) (now : Nat) :
    (r'.learn p rssi now).table = (r.learn p rssi now).table := by
  have hsource : (r'.learnSource p rssi now).table = (r.learnSource p rssi now).table := by
    unfold learnSource
    rw [hlimit]
    split
    · rw [offer_table, offer_table, htable]
    · exact htable
  unfold learn learnRelay
  rw [(r'.stamps_learnSource p rssi now).nodeId, (r.stamps_learnSource p rssi now).nodeId, hnode]
  split
  · rw [offer_table, offer_table, hsource]
  · exact hsource

/-- A router has learned from a frame that it was screening, or has left its table alone. -/
theorem table_screen (r : Router) (frame : Bytes) (rssi : Int16) (now : Nat) :
    (r.screen frame rssi now).2.table = r.table ∨
      ∃ p, Packet.decode frame = .ok p ∧
        (r.screen frame rssi now).2.table = (r.learn p rssi now).table := by
  have hscreened := r.screened frame rssi now
  generalize r.screen frame rssi now = result at hscreened ⊢
  cases hscreened with
  | damaged e hdecode => exact Or.inl rfl
  | overheard p hdecode hpassing =>
    unfold overhear
    split
    · refine Or.inr ⟨p, hdecode, ?_⟩
      apply table_learn_congr <;> rfl
    · exact Or.inl rfl
  | duplicate p hdecode hmine hknown => exact Or.inl rfl
  | echo p hdecode hmine hnew hown => exact Or.inl rfl
  | passed p hdecode hmine hnew hother =>
    refine Or.inr ⟨p, hdecode, ?_⟩
    unfold accept
    apply table_learn_congr <;> rfl

/-- A frame teaches the way to its source first, and the relay that sent it next. -/
theorem lost_learn (hknown : r.table.lookup lost ≠ none)
    (hlost : (r.learn p rssi now).table.lookup lost = none) :
    r.table.GaveUp (r.learnSource p rssi now).table now lost p.source ∨
      (r.learnSource p rssi now).table.GaveUp (r.learn p rssi now).table now lost p.lastHop := by
  by_cases hsource : (r.learnSource p rssi now).table.lookup lost = none
  · left
    unfold learnSource at hsource ⊢
    split at hsource
    · rename_i hnear
      rw [if_pos hnear]
      rw [offer_table] at hsource ⊢
      exact RouteTable.lost_update hknown hsource
    · exact absurd hsource hknown
  · right
    unfold learn learnRelay at hlost ⊢
    split at hlost
    · rename_i hrelay
      rw [if_pos hrelay]
      rw [offer_table] at hlost ⊢
      exact RouteTable.lost_update hsource hlost
    · exact absurd hlost hsource

end Router

/-! ## Goodbyes -/

/-- The packet says goodbye to this node or to everybody, and its payload opens under the
mesh key with its own header as associated data. -/
structure Packet.IsFarewell (p : Packet) (node : NodeId) (keys : KeyRing) : Prop where
  topic : p.topic = .bye
  addressed : p.destination = node ∨ p.isBroadcast = true
  opens : ∃ key text, keys.key = some key ∧
    keys.provider.unsealText key p.associatedData p.payload = .ok text

namespace Station

variable {s : Station} {p : Packet} {keys : KeyRing} {frame : Bytes} {rssi : Int16} {now : Nat}

theorem table_deliver_opened {text : Bytes} (hbye : p.topic = .bye)
    (hopen : keys.unsealText p.associatedData p.payload = .ok text) (s : Station) :
    (s.deliver p keys).2.router.table = (s.router.table.remove p.source).2 := by
  unfold deliver Router.deliver Router.heedBye
  rw [hbye, hopen]
  rfl

/-- Only a goodbye that opens is heeded. -/
theorem table_deliver_cases (s : Station) (p : Packet) (keys : KeyRing) :
    (s.deliver p keys).2.router.table = s.router.table ∨
      p.topic = .bye ∧ (∃ text, keys.unsealText p.associatedData p.payload = .ok text) ∧
        (s.deliver p keys).2.router.table = (s.router.table.remove p.source).2 := by
  by_cases hbye : p.topic = .bye
  · cases hopen : keys.unsealText p.associatedData p.payload with
    | error e =>
      left
      unfold deliver Router.deliver
      rw [hbye, hopen]
      rfl
    | ok text => exact Or.inr ⟨hbye, ⟨text, rfl⟩, table_deliver_opened hbye hopen s⟩
  · exact Or.inl (table_deliver hbye s keys)

theorem table_originate (s : Station) (destination : NodeId) (topic : Topic) (payload : Bytes)
    (now : Nat) (keys : KeyRing) :
    (s.originate destination topic payload now keys).2.router.table = s.router.table := by
  unfold originate
  rcases s.compose_cases destination topic payload keys with ⟨e, draws, h⟩ | ⟨id, blob, draws, h⟩
  · rw [h]
  · rw [h]
    exact table_transmit _ _ now

/-- The answer to a packet leaves the table as the delivery has left it. -/
theorem table_deliverUnicast (s : Station) (p : Packet) (now : Nat) (keys : KeyRing) :
    (s.deliverUnicast p now keys).2.router.table = (s.deliver p keys).2.router.table := by
  unfold deliverUnicast
  rcases s.deliver p keys with ⟨result, delivered⟩
  cases result with
  | error reason => rfl
  | ok done =>
    cases p.topic.reply? with
    | none => rfl
    | some reply =>
      have hanswer := delivered.table_originate p.source reply (replyBody p reply) now keys
      simp only
      generalize delivered.originate p.source reply (replyBody p reply) now keys = answered
        at hanswer ⊢
      rcases answered with ⟨sent, answered⟩
      cases sent with
      | error e => exact hanswer
      | ok id => exact hanswer

theorem table_spread (s : Station) (p : Packet) (keys : KeyRing) :
    (s.spread p keys).2.router.table = (s.deliver p keys).2.router.table := by
  unfold spread
  rcases s.deliver p keys with ⟨result, delivered⟩
  simp only
  split
  · exact delivered.table_relay p .broadcast
  · cases result with
    | error reason => rfl
    | ok done => rfl

theorem table_forward (s : Station) (p : Packet) :
    (s.forward p).2.router.table = s.router.table := by
  unfold forward
  split
  · rfl
  split
  · rfl
  · exact s.table_relay p _

theorem table_dispatch_farewell (h : p.IsFarewell s.router.nodeId keys) (now : Nat) :
    (s.dispatch p now keys).2.router.table = (s.router.table.remove p.source).2 := by
  obtain ⟨key, text, hkey, hopen⟩ := h.opens
  have hdeliver := table_deliver_opened h.topic
    (KeyRing.unsealText_of_key hkey hopen) s
  have hplain : p.topic.isInclusion = false := by
    rw [h.topic]
    rfl
  unfold dispatch
  rw [hplain, if_neg Bool.false_ne_true]
  split
  · exact (s.table_deliverUnicast p now keys).trans hdeliver
  · rename_i haway
    rw [if_pos (h.addressed.resolve_left haway)]
    exact (s.table_spread p keys).trans hdeliver

/-- Whatever is done with a packet, it costs a route only if it is a goodbye that is heeded. -/
theorem table_dispatch_cases (s : Station) (p : Packet) (now : Nat) (keys : KeyRing) :
    (s.dispatch p now keys).2.router.table = s.router.table ∨
      p.IsFarewell s.router.nodeId keys ∧
        (s.dispatch p now keys).2.router.table = (s.router.table.remove p.source).2 := by
  have haddressed : (p.destination = s.router.nodeId ∨ p.isBroadcast = true) →
      (s.deliver p keys).2.router.table = s.router.table ∨
        p.IsFarewell s.router.nodeId keys ∧
          (s.deliver p keys).2.router.table = (s.router.table.remove p.source).2 := by
    intro hfor
    refine (s.table_deliver_cases p keys).imp_right ?_
    rintro ⟨hbye, ⟨text, hopen⟩, htable⟩
    obtain ⟨key, hkey, hopen⟩ := KeyRing.unsealText_eq_ok hopen
    exact ⟨⟨hbye, hfor, key, text, hkey, hopen⟩, htable⟩
  unfold dispatch
  split
  · exact Or.inl rfl
  split
  · rename_i hown
    rw [table_deliverUnicast]
    exact haddressed (Or.inl hown)
  split
  · rename_i hall
    rw [table_spread]
    exact haddressed (Or.inr hall)
  · exact Or.inl (s.table_forward p)

/-! ## The net effect of a frame -/

/-- A frame costs a route in two ways only: it says goodbye for the node that the route
leads to, having passed the screen and opened under the mesh key, or it teaches a full table
of a node that the table did not know. And a goodbye that has passed the screen and opens
leaves no route to its source, taught by the same frame or not. -/
theorem route_lost_only_by (s : Station) (frame : Bytes) (rssi : Int16) (now : Nat)
    (keys : KeyRing) :
    (∀ d, s.router.table.lookup d ≠ none →
      (s.route frame rssi now keys).2.router.table.lookup d = none →
      (∃ p, (s.router.screen frame rssi now).1 = .ok p ∧
        p.IsFarewell s.router.nodeId keys ∧ p.source = d) ∨
      ∃ p, Packet.decode frame = .ok p ∧
        (s.router.table.GaveUp (s.router.learnSource p rssi now).table now d p.source ∨
          (s.router.learnSource p rssi now).table.GaveUp (s.router.learn p rssi now).table now d
            p.lastHop)) ∧
      ∀ p, (s.router.screen frame rssi now).1 = .ok p → p.IsFarewell s.router.nodeId keys →
        (s.route frame rssi now keys).2.router.table.lookup p.source = none := by
  have hscreen := s.router.table_screen frame rssi now
  have hnode := (s.router.alike_screen frame rssi now).nodeId
  unfold route
  generalize s.router.screen frame rssi now = screened at hscreen hnode ⊢
  rcases screened with ⟨result, router⟩
  -- What is lost before the packet is dealt with is lost to what the frame teaches.
  have hlearned : ∀ d, s.router.table.lookup d ≠ none → router.table.lookup d = none →
      ∃ p, Packet.decode frame = .ok p ∧
        (s.router.table.GaveUp (s.router.learnSource p rssi now).table now d p.source ∨
          (s.router.learnSource p rssi now).table.GaveUp (s.router.learn p rssi now).table now d
            p.lastHop) := by
    intro d hknown hlost
    rcases hscreen with hsame | ⟨p, hdecode, hlearn⟩
    · rw [show router.table = s.router.table from hsame] at hlost
      exact absurd hlost hknown
    · rw [show router.table = (s.router.learn p rssi now).table from hlearn] at hlost
      exact ⟨p, hdecode, Router.lost_learn hknown hlost⟩
  cases result with
  | error reason =>
    exact ⟨fun d hknown hlost => Or.inr (hlearned d hknown hlost), fun p h => nomatch h⟩
  | ok p =>
    have hfarewell : ∀ q : Packet, q.IsFarewell s.router.nodeId keys ↔
        q.IsFarewell ({ s with router := router } : Station).router.nodeId keys := by
      intro q
      rw [show ({ s with router := router } : Station).router.nodeId = s.router.nodeId from hnode]
    refine ⟨fun d hknown hlost => ?_, fun q hq hbye => ?_⟩
    · by_cases hbefore : router.table.lookup d = none
      · exact Or.inr (hlearned d hknown hbefore)
      · left
        rcases table_dispatch_cases { s with router := router } p now keys with
          hsame | ⟨hbye, hremove⟩
        · rw [hsame] at hlost
          exact absurd hlost hbefore
        · rw [hremove] at hlost
          exact ⟨p, rfl, (hfarewell p).mpr hbye, RouteTable.lost_remove hbefore hlost⟩
    · cases hq
      rw [table_dispatch_farewell ((hfarewell p).mp hbye) now]
      exact RouteTable.lookup_remove_self _ _

/-- Somebody whom the node has never heard of says goodbye to everybody. -/
def farewellHeader : Packet := .fresh ⟨5⟩ .broadcast .bye [] 0

def farewellPacket : Packet :=
  { farewellHeader with payload := CryptoProvider.label chainKey farewellHeader.associatedData }

/-- A router with room for one route, which it has. -/
def narrowStation : Station :=
  { chainStation ⟨2⟩ with
    router := { (chainStation ⟨2⟩).router with
      table := { timeout := 1000, maxRoutes := 1, routes := [⟨⟨4⟩, ⟨4⟩, 1, -60, 0⟩] } } }

theorem route_lost_only_by_farewell :
    (∃ p, Packet.decode farewellPacket.frame = .ok p ∧
      (narrowStation.router.table.GaveUp (narrowStation.router.learnSource p 0 9).table 9 ⟨4⟩
          p.source ∨
        (narrowStation.router.learnSource p 0 9).table.GaveUp
          (narrowStation.router.learn p 0 9).table 9 ⟨4⟩ p.lastHop)) ∧
      (narrowStation.route farewellPacket.frame 0 9 chainKeys).2.router.table.lookup ⟨5⟩ =
        none := by
  have hdecode : Packet.decode farewellPacket.frame = .ok farewellPacket :=
    Packet.Fits.decode ⟨rfl, by decide +kernel⟩
  have hpassed : (narrowStation.router.screen farewellPacket.frame 0 9).1 = .ok farewellPacket :=
    Router.screen_eq_ok_iff.mpr ⟨hdecode, rfl, rfl, by decide⟩
  have hbye : farewellPacket.IsFarewell narrowStation.router.nodeId chainKeys :=
    ⟨rfl, Or.inr rfl, chainKey, [], rfl,
      CryptoProvider.transparent_undoes _ _ _ _ ⟨{ source := fun _ _ => [] }, _, rfl⟩⟩
  have hroute : narrowStation.route farewellPacket.frame 0 9 chainKeys =
      { narrowStation with router := narrowStation.router.accept farewellPacket 0 9 }.dispatch
        farewellPacket 9 chainKeys := route_fresh hdecode rfl rfl (by decide) 0 chainKeys
  obtain ⟨hlost, hgone⟩ := route_lost_only_by narrowStation farewellPacket.frame 0 9 chainKeys
  refine ⟨(hlost ⟨4⟩ (by decide) ?_).resolve_left ?_, hgone farewellPacket hpassed hbye⟩
  · have htable := table_dispatch_farewell
      (s := { narrowStation with router := narrowStation.router.accept farewellPacket 0 9 }) hbye 9
    rw [hroute, htable]
    decide
  · rintro ⟨p, hp, _, hsource⟩
    rw [hpassed] at hp
    cases hp
    exact absurd hsource (by decide)

end Station
end Meshwork
