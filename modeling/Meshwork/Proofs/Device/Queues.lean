import Meshwork.Proofs.Device.Workings
import Meshwork.Proofs.Router.Verdicts

/-!
# Counters and queues

Every frame that a router counts as sent is put into the outbox, one that the radio refuses
is not counted, and a frame leaves the inbox only to be screened, which counts it as heard.
So a counter and its queue move together, whatever is done with the device.
-/

namespace Meshwork
set_option autoImplicit false

namespace Station

variable {s s' s'' : Station} {keys : KeyRing}

/-- As many frames were counted as sent as went into the outbox, and none was taken in. -/
structure Posts (s s' : Station) : Prop where
  sent : s'.router.stats.sent + s.radio.outbox.length =
    s.router.stats.sent + s'.radio.outbox.length
  received : s'.router.stats.received = s.router.stats.received
  inbox : s'.radio.inbox = s.radio.inbox

theorem Posts.refl (s : Station) : s.Posts s := ⟨rfl, rfl, rfl⟩

theorem Posts.trans (h : s.Posts s') (h' : s'.Posts s'') : s.Posts s'' := by
  refine ⟨?_, h'.received.trans h.received, h'.inbox.trans h.inbox⟩
  have hfirst := h.sent
  have hsecond := h'.sent
  omega

/-! ## What a station does -/

theorem posts_send (s : Station) (frame : Bytes) : s.Posts (s.send frame).2 := by
  rcases s.send_cases frame with ⟨e, _, h⟩ | ⟨_, h⟩
  · rw [h]
    exact .refl s
  · rw [h]
    refine ⟨?_, rfl, rfl⟩
    change s.router.stats.sent + 1 + s.radio.outbox.length =
      s.router.stats.sent + (s.radio.outbox ++ [frame]).length
    rw [List.length_append, List.length_singleton]
    omega

theorem posts_transmit (s : Station) (p : Packet) (now : Nat) :
    s.Posts (s.transmit p now).2 := by
  unfold transmit
  split
  · exact .refl s
  · rename_i frame _
    have hrecord : s.Posts (s.record p now) := ⟨rfl, rfl, rfl⟩
    have hsend := hrecord.trans ((s.record p now).posts_send frame)
    generalize (s.record p now).send frame = sent at hsend ⊢
    rcases sent with ⟨result, sent⟩
    cases result with
    | error e => exact hsend
    | ok done => exact hsend

theorem posts_originate (s : Station) (destination : NodeId) (topic : Topic) (payload : Bytes)
    (now : Nat) (keys : KeyRing) :
    s.Posts (s.originate destination topic payload now keys).2 := by
  unfold originate
  rcases s.compose_cases destination topic payload keys with
    ⟨e, draws, h⟩ | ⟨id, blob, draws, h⟩
  · rw [h]
    exact ⟨rfl, rfl, rfl⟩
  · rw [h]
    have hcomposed : s.Posts { s with draws := draws } := ⟨rfl, rfl, rfl⟩
    exact hcomposed.trans (posts_transmit _ _ now)

theorem posts_relay (s : Station) (p : Packet) (nextHop : NodeId) :
    s.Posts (s.relay p nextHop).2 := by
  unfold relay
  split
  · exact ⟨rfl, rfl, rfl⟩
  split
  · exact .refl s
  rename_i frame _
  have hsend := s.posts_send frame
  generalize s.send frame = sent at hsend ⊢
  rcases sent with ⟨result, sent⟩
  cases result with
  | error e => exact hsend
  | ok done =>
    simp only
    split
    · exact hsend.trans ⟨rfl, rfl, rfl⟩
    · exact hsend.trans ⟨rfl, rfl, rfl⟩

theorem posts_deliver (s : Station) (p : Packet) (keys : KeyRing) :
    s.Posts (s.deliver p keys).2 := by
  unfold deliver Router.deliver Router.heedBye
  cases p.topic.isReserved with
  | true => exact .refl s
  | false =>
    cases keys.unsealText p.associatedData p.payload with
    | error e => exact ⟨rfl, rfl, rfl⟩
    | ok text =>
      simp only [Bool.false_eq_true, if_false]
      split
      · exact ⟨rfl, rfl, rfl⟩
      · exact ⟨rfl, rfl, rfl⟩

theorem posts_deliverUnicast (s : Station) (p : Packet) (now : Nat) (keys : KeyRing) :
    s.Posts (s.deliverUnicast p now keys).2 := by
  have hdeliver := s.posts_deliver p keys
  unfold deliverUnicast
  generalize s.deliver p keys = delivered at hdeliver ⊢
  rcases delivered with ⟨result, delivered⟩
  cases result with
  | error reason => exact hdeliver
  | ok done =>
    cases p.topic.reply? with
    | none => exact hdeliver
    | some reply =>
      have hanswer := hdeliver.trans
        (delivered.posts_originate p.source reply (replyBody p reply) now keys)
      simp only
      generalize delivered.originate p.source reply (replyBody p reply) now keys = answered
        at hanswer ⊢
      rcases answered with ⟨sent, answered⟩
      cases sent with
      | error e => exact hanswer
      | ok id => exact hanswer

theorem posts_spread (s : Station) (p : Packet) (keys : KeyRing) :
    s.Posts (s.spread p keys).2 := by
  have hdeliver := s.posts_deliver p keys
  unfold spread
  generalize s.deliver p keys = delivered at hdeliver ⊢
  rcases delivered with ⟨result, delivered⟩
  simp only
  split
  · exact hdeliver.trans (delivered.posts_relay p .broadcast)
  · cases result with
    | error reason => exact hdeliver
    | ok done => exact hdeliver

theorem posts_forward (s : Station) (p : Packet) : s.Posts (s.forward p).2 := by
  unfold forward
  split
  · exact .refl s
  split
  · exact .refl s
  · exact s.posts_relay p _

theorem posts_dispatch (s : Station) (p : Packet) (now : Nat) (keys : KeyRing) :
    s.Posts (s.dispatch p now keys).2 := by
  unfold dispatch
  split
  · exact .refl s
  split
  · exact s.posts_deliverUnicast p now keys
  split
  · exact s.posts_spread p keys
  · exact s.posts_forward p

theorem posts_work (s : Station) (work : Work) : s.Posts (work.perform s) := by
  cases work with
  | rest => exact .refl s
  | transmit p now => exact s.posts_transmit p now
  | originate destination topic payload now keys =>
    exact s.posts_originate destination topic payload now keys
  | dispatch p now keys => exact s.posts_dispatch p now keys

end Station

/-- A frame is counted when it is screened, whatever comes of it. -/
theorem Router.counts_screen (r : Router) (frame : Bytes) (rssi : Int16) (now : Nat) :
    (r.screen frame rssi now).2.stats.sent = r.stats.sent ∧
      (r.screen frame rssi now).2.stats.received = r.stats.received + 1 := by
  have hscreened := r.screened frame rssi now
  generalize r.screen frame rssi now = result at hscreened ⊢
  cases hscreened with
  | damaged e hdecode => exact ⟨rfl, rfl⟩
  | overheard p hdecode hpassing =>
    obtain ⟨learned, h⟩ := overhear_eq
      { r with stats.received := r.stats.received + 1 } p rssi now
    rw [h]
    exact ⟨rfl, rfl⟩
  | duplicate p hdecode hmine hknown => exact ⟨rfl, rfl⟩
  | echo p hdecode hmine hnew hown => exact ⟨rfl, rfl⟩
  | passed p hdecode hmine hnew hother =>
    obtain ⟨stats, ⟨learned, hstats⟩, h⟩ := r.accept_eq p rssi now
    rw [h, hstats]
    exact ⟨rfl, rfl⟩

theorem Radio.receive_none {r r' : Radio} (h : r.receive = .ok (none, r')) :
    r.inbox = [] ∧ r' = r := by
  unfold receive at h
  split at h
  · cases h
  · split at h
    · rename_i hinbox
      cases h
      exact ⟨hinbox, rfl⟩
    · cases h

theorem Radio.receive_some {r r' : Radio} {frame : Bytes} (h : r.receive = .ok (some frame, r')) :
    ∃ rssi rest, r.inbox = (frame, rssi) :: rest ∧ r' = { r with inbox := rest, rssi := rssi } := by
  unfold receive at h
  split at h
  · cases h
  · split at h
    · cases h
    · rename_i hinbox
      cases h
      exact ⟨_, _, hinbox, rfl⟩

namespace Device

variable {d m m' : Device} {now : UInt64} {draws : Draws}

/-- As many frames were counted as sent as went into the outbox, and as many as heard as
left the inbox. -/
structure Books (d m : Device) : Prop where
  sent : m.router.stats.sent + d.radio.outbox.length =
    d.router.stats.sent + m.radio.outbox.length
  received : m.router.stats.received + m.radio.inbox.length =
    d.router.stats.received + d.radio.inbox.length

theorem Books.refl (d : Device) : d.Books d := ⟨rfl, rfl⟩

theorem Books.trans (h : d.Books m) (h' : m.Books m') : d.Books m' := by
  refine ⟨?_, h'.received.trans h.received⟩
  have hfirst := h.sent
  have hsecond := h'.sent
  omega

theorem Worked.books (h : Worked d.router d.radio m) : d.Books m := by
  obtain ⟨draws, work, hrouter, hradio⟩ := h
  have hposts := Station.posts_work { router := d.router, radio := d.radio, draws := draws } work
  refine ⟨?_, ?_⟩
  · rw [hrouter, hradio]
    exact hposts.sent
  · rw [hrouter, hradio, hposts.received, hposts.inbox]

theorem Worked.inbox {r : Router} {radio : Radio} (h : Worked r radio m) :
    m.radio.inbox = radio.inbox := by
  obtain ⟨draws, work, _, hradio⟩ := h
  rw [hradio]
  exact (Station.posts_work { router := r, radio := radio, draws := draws } work).inbox

theorem books_of_eq (hrouter : m.router.stats = d.router.stats)
    (hinbox : m.radio.inbox = d.radio.inbox) (houtbox : m.radio.outbox = d.radio.outbox) :
    d.Books m := by
  refine ⟨?_, ?_⟩
  · rw [hrouter, houtbox]
  · rw [hrouter, hinbox]

/-! ## Polls -/

/-- A poll leaves the radio alone, or takes one frame off its inbox and lets the router
screen that and deal with it. It tells that there was no frame only where there was none. -/
theorem poll_empties (d : Device) (now : UInt64) (draws : Draws) :
    ((d.poll now draws).2.1.router = d.router.sweep now.toNat ∧
      (d.poll now draws).2.1.radio = d.radio ∧
      ((d.poll now draws).1 = .ok none → d.radio.inbox = []) ∧
      ∀ outcome, (d.poll now draws).1 ≠ .ok (some outcome)) ∨
    ∃ entry rest, d.radio.inbox = entry :: rest ∧
      Worked ((d.router.sweep now.toNat).screen entry.1 entry.2 now.toNat).2
        { d.radio with inbox := rest, rssi := entry.2 } (d.poll now draws).2.1 ∧
      (d.poll now draws).1 ≠ .ok none := by
  have hrouter : (d.expire now).emitEvents.2.router = d.router.sweep now.toNat :=
    router_emitEvents _
  have hradio : (d.expire now).emitEvents.2.radio = d.radio := radio_emitEvents _
  have hpolled := d.polled now draws
  generalize d.poll now draws = result at hpolled ⊢
  cases hpolled with
  | failed e hnone => exact Or.inl ⟨hrouter, hradio, nofun, nofun⟩
  | silent radio hnone hreceive =>
    obtain ⟨hempty, rfl⟩ := Radio.receive_none hreceive
    exact Or.inl ⟨hrouter, rfl, fun _ => hempty, nofun⟩
  | heard m frame radio hm hsome hreceive =>
    obtain ⟨rssi, rest, hinbox, rfl⟩ := Radio.receive_some hreceive
    subst hm
    refine Or.inr ⟨(frame, rssi), rest, hinbox, ?_, ?_⟩
    · rw [← hrouter]
      exact worked_processFrame _ frame now draws
    · generalize Device.processFrame _ frame now draws = processed
      rcases processed with ⟨outcome, after⟩
      cases outcome with
      | error e => nofun
      | ok outcome => nofun

theorem books_poll (d : Device) (now : UInt64) (draws : Draws) :
    d.Books (d.poll now draws).2.1 := by
  rcases d.poll_empties now draws with ⟨hrouter, hradio, _⟩ | ⟨entry, rest, hinbox, hworked, _⟩
  · refine books_of_eq ?_ (congrArg Radio.inbox hradio) (congrArg Radio.outbox hradio)
    rw [hrouter]
    rfl
  · obtain ⟨hsent, hreceived⟩ := (d.router.sweep now.toNat).counts_screen entry.1 entry.2 now.toNat
    have hscreened : d.Books { d with
        router := ((d.router.sweep now.toNat).screen entry.1 entry.2 now.toNat).2
        radio := { d.radio with inbox := rest, rssi := entry.2 } } := by
      refine ⟨?_, ?_⟩
      · exact congrArg (· + d.radio.outbox.length) hsent
      · rw [hinbox, List.length_cons, hreceived]
        change d.router.stats.received + 1 + rest.length = _
        omega
    exact hscreened.trans hworked.books

/-! ## Everything else -/

/-- Everything but a frame that comes from nowhere and another radio in the place of the
device's own. -/
def Deed.sparesQueues : Deed → Bool
  | operate (.processFrame _ _) => false
  | operate (.surround _ _) => false
  | _ => true

theorem books_operate (d : Device) (operation : Operation) (draws : Draws)
    (hspares : (Deed.operate operation).sparesQueues = true) :
    d.Books (operation.perform (d, draws)).1 := by
  cases operation with
  | poll now => exact d.books_poll now draws
  | processFrame frame now => cases hspares
  | send destination topic payload now =>
    exact (d.worked_send destination topic payload now draws).books
  | requestInclusion now => exact (d.worked_requestInclusion now draws).books
  | enableInclusion =>
    obtain ⟨_, _, _, h⟩ := d.enableInclusion_cases draws
    change d.Books (d.enableInclusion draws).2.1
    rw [h]
    exact books_of_eq rfl rfl rfl
  | disableInclusion => exact books_of_eq rfl rfl rfl
  | provision key =>
    obtain ⟨_, _, _, h⟩ := d.provision_eq key
    change d.Books (d.provision key).2
    rw [h]
    exact books_of_eq rfl rfl rfl
  | leave now => exact (d.worked_leave now draws).books
  | shutdown =>
    obtain ⟨_, h⟩ := d.shutdown_eq
    change d.Books d.shutdown.2
    rw [h]
    exact books_of_eq rfl rfl rfl
  | surround radio storage => cases hspares

theorem books_init (d : Device) (now : UInt64) : d.Books (d.init now).2 := by
  obtain ⟨_, _, _, h⟩ := d.init_cases now
  rw [h]
  exact books_of_eq rfl rfl rfl

theorem books_listen (h : d.listen = .ok m) : d.Books m := by
  unfold listen Router.listen at h
  cases hhandler : d.router.hasHandler with
  | true =>
    rw [hhandler] at h
    cases h
  | false =>
    rw [hhandler] at h
    cases h
    exact books_of_eq rfl rfl rfl

theorem books_listenInclusion (h : d.listenInclusion = .ok m) : d.Books m := by
  unfold listenInclusion at h
  split at h
  · cases h
  · cases h
    exact books_of_eq rfl rfl rfl

theorem books_deed (d : Device) {deed : Deed} (draws : Draws)
    (hspares : deed.sparesQueues = true) : d.Books (deed.perform (d, draws)).1 := by
  cases deed with
  | operate operation => exact d.books_operate operation draws hspares
  | init now => exact d.books_init now
  | listen =>
    unfold Deed.perform
    simp only
    cases h : d.listen with
    | error e => exact .refl d
    | ok m => exact books_listen h
  | listenInclusion =>
    unfold Deed.perform
    simp only
    cases h : d.listenInclusion with
    | error e => exact .refl d
    | ok m => exact books_listenInclusion h

end Device
end Meshwork
