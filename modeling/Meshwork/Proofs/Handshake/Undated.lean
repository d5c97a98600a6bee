import Meshwork.Inclusion.Handshake

/-!
# What a message has to do with the time

A party that hears a message notes when the next one is due, and that is all it does
with the time. Two parties that are alike but for their deadlines answer the same
message alike, whenever each of them hears it.
-/

namespace Meshwork
set_option autoImplicit false

/-- A session without its deadline. -/
def Session.undated (session : Session) : Session := { session with deadline := 0 }

@[simp] theorem Session.undated_peer (session : Session) : session.undated.peer = session.peer :=
  rfl

@[simp] theorem Session.undated_step (session : Session) : session.undated.step = session.step :=
  rfl

@[simp] theorem Session.undated_bootstrap (session : Session) :
    session.undated.bootstrap = session.bootstrap := rfl

namespace Inclusion

def undated (c : Inclusion) : Inclusion :=
  { c with
    own := c.own.map Session.undated
    sessions := c.sessions.map fun e => (e.1, e.2.undated) }

variable (c : Inclusion) (peer : NodeId)

@[simp] theorem undated_nodeId : c.undated.nodeId = c.nodeId := rfl

@[simp] theorem undated_own : c.undated.own = c.own.map Session.undated := rfl

theorem session?_undated : c.undated.session? peer = (c.session? peer).map Session.undated := by
  unfold session? undated
  induction c.sessions with
  | nil => rfl
  | cons e sessions ih =>
    rw [List.map_cons, List.lookup_cons, List.lookup_cons]
    cases peer == e.1 with
    | true => rfl
    | false => exact ih

theorem hasSession_undated : c.undated.hasSession peer = c.hasSession peer := by
  rw [hasSession, session?_undated, Option.isSome_map]
  rfl

theorem eraseSession_undated (sessions : List (NodeId × Session)) :
    eraseSession peer (sessions.map fun e => (e.1, e.2.undated)) =
      (eraseSession peer sessions).map fun e => (e.1, e.2.undated) :=
  List.filter_map

theorem failPeer_undated (reason : InclusionError) :
    c.undated.failPeer peer reason = (c.failPeer peer reason).undated := by
  unfold failPeer
  rw [hasSession_undated]
  split
  · simp only [undated, queue, eraseSession_undated]
  · rfl

theorem failOwn_undated (reason : InclusionError) :
    c.undated.failOwn reason = (c.failOwn reason).undated := by
  unfold failOwn
  rw [undated_own]
  cases c.own with
  | none => rfl
  | some session => rfl

theorem undated_idem : c.undated.undated = c.undated := by
  unfold undated
  simp only [List.map_map, Option.map_map]
  rfl

theorem undated_setOwn {c : Inclusion} {session session' : Session}
    (h : session.undated = session'.undated) :
    ({ c.undated with own := some session } : Inclusion).undated =
      ({ c with own := some session' } : Inclusion).undated := by
  unfold undated
  simp only [List.map_map, Option.map_some, h]
  rfl

theorem undated_putSession (session : Session) :
    (c.putSession peer session).undated = c.undated.putSession peer session.undated := by
  simp only [undated, putSession, eraseSession_undated, List.map_append, List.map_cons,
    List.map_nil]

theorem expectStep_undated (step : Step) (topic : Topic) :
    c.undated.expectStep peer step topic =
      ((c.expectStep peer step topic).1.map Session.undated,
        (c.expectStep peer step topic).2.undated) := by
  unfold expectStep
  rw [session?_undated]
  cases c.session? peer with
  | none => rfl
  | some session =>
    simp only [Option.map_some]
    rw [Session.undated_step, failPeer_undated]
    split
    · rfl
    · rfl

theorem ownSessionFor_undated (hub : NodeId) (topic : Topic) :
    c.undated.ownSessionFor hub topic = (c.ownSessionFor hub topic).map Session.undated := by
  unfold ownSessionFor
  rw [undated_own]
  cases c.own with
  | none => rfl
  | some session =>
    simp only [Option.map_some]
    rw [Session.undated_peer]
    split
    · rfl
    · rfl

end Inclusion

namespace Party

def undated (s : Party) : Party := { s with inclusion := s.inclusion.undated }

@[simp] theorem undated_inclusion (s : Party) : s.undated.inclusion = s.inclusion.undated := rfl

@[simp] theorem undated_keys (s : Party) : s.undated.keys = s.keys := rfl

@[simp] theorem undated_draws (s : Party) : s.undated.draws = s.draws := rfl

/-- The same answer, and the same left but for deadlines. -/
def Agree {α : Type} (r r' : α × Party) : Prop := r.1 = r'.1 ∧ r.2.undated = r'.2.undated

variable (s : Party) (p : Packet) (now now' : UInt64)

theorem undated_idem : s.undated.undated = s.undated := by
  unfold undated
  simp only [Inclusion.undated_idem]

theorem Agree.refl_undated {α : Type} (result : α) (s : Party) :
    Agree (result, s.undated) (result, s) := ⟨rfl, s.undated_idem⟩

theorem undated_eq {s s' : Party} (h : s.inclusion.undated = s'.inclusion.undated)
    (hkeys : s.keys = s'.keys) (hdraws : s.draws = s'.draws) : s.undated = s'.undated := by
  unfold undated
  rw [h, hkeys, hdraws]

/-! ## Message by message -/

theorem build_undated (peer : NodeId) (topic : Topic)
    (payload : Bytes → Draws → Except CryptoError Bytes × Draws) :
    s.undated.build peer topic payload =
      ((s.build peer topic payload).1, (s.build peer topic payload).2.undated) := by
  unfold build
  rw [undated_inclusion, Inclusion.undated_nodeId, undated_draws]
  rcases Packet.create s.inclusion.nodeId peer topic [] s.draws with ⟨created, draws⟩
  cases created with
  | error e => rfl
  | ok p =>
    simp only
    rcases payload p.associatedData draws with ⟨result, drawn⟩
    cases result with
    | error e => rfl
    | ok bs => rfl

theorem buildSealed_undated (peer : NodeId) (topic : Topic) (key : MeshKey) (plain : Bytes) :
    s.undated.buildSealed peer topic key plain =
      ((s.buildSealed peer topic key plain).1, (s.buildSealed peer topic key plain).2.undated) :=
  s.build_undated peer topic _

theorem agree_acceptRequest (peer : NodeId) (peerKey : Bytes.Block 32)
    (peerNonce : Bytes.Block 16) :
    Agree (s.undated.acceptRequest peer peerKey peerNonce now')
      (s.acceptRequest peer peerKey peerNonce now) := by
  obtain ⟨session, draws, hnew, hnew'⟩ : ∃ session draws,
      s.newSession peer .awaitingOpen now =
        ({ session with deadline := now + s.inclusion.timeout }, s.withDraws draws) ∧
      s.undated.newSession peer .awaitingOpen now' =
        ({ session with deadline := now' + s.inclusion.timeout }, (s.withDraws draws).undated) :=
    ⟨(s.newSession peer .awaitingOpen now).1, _, rfl, rfl⟩
  unfold acceptRequest
  rw [hnew, hnew']
  simp only
  generalize s.withDraws draws = s
  rw [show s.undated.deriveBootstrap session.keyPair peerKey peerNonce session.nonce peer
    s.undated.inclusion.nodeId = s.deriveBootstrap session.keyPair peerKey peerNonce session.nonce
      peer s.inclusion.nodeId from rfl]
  cases s.deriveBootstrap session.keyPair peerKey peerNonce session.nonce peer
    s.inclusion.nodeId with
  | error e => exact Agree.refl_undated _ s
  | ok bootstrap =>
    -- what is offered are the key and the nonce of the session, whenever it is due
    have hoffer : ∀ deadline, Inclusion.offer
        { session with deadline := deadline, bootstrap := some bootstrap } =
          Inclusion.offer session := fun _ => rfl
    simp only [hoffer, build_undated]
    generalize s.build peer .includeResponse (fun _ draws => (.ok (Inclusion.offer session), draws))
      = built
    rcases built with ⟨result, s⟩
    cases result with
    | error e => exact Agree.refl_undated _ s
    | ok reply =>
      refine ⟨rfl, undated_eq ?_ rfl rfl⟩
      rw [Inclusion.undated_putSession, Inclusion.undated_putSession]
      let answered : Inclusion :=
        { s.inclusion with included := s.inclusion.included.filter (· != peer) }
      exact congrArg (Inclusion.putSession · peer _) answered.undated_idem

theorem failPeer_undated (peer : NodeId) (reason : InclusionError) :
    s.undated.failPeer peer reason = (s.failPeer peer reason).undated :=
  congrArg (fun c : Inclusion => ({ s with inclusion := c } : Party))
    (s.inclusion.failPeer_undated peer reason)

theorem failOwn_undated (reason : InclusionError) :
    s.undated.failOwn reason = (s.failOwn reason).undated :=
  congrArg (fun c : Inclusion => ({ s with inclusion := c } : Party))
    (s.inclusion.failOwn_undated reason)

theorem agree_onRequest : Agree (s.undated.onRequest p now') (s.onRequest p now) := by
  unfold onRequest
  rw [undated_inclusion, Inclusion.hasSession_undated,
    failPeer_undated, show s.inclusion.undated.sessions.length = s.inclusion.sessions.length from
      List.length_map _]
  change Agree (if s.inclusion.role ≠ .hub then _ else if !s.inclusion.accepting then _ else
    if s.inclusion.hasSession p.source then _ else
    if s.inclusion.maxSessions ≤ s.inclusion.sessions.length then _ else
    if !s.keys.hasKey then _ else _) _
  split
  · exact Agree.refl_undated _ s
  split
  · exact Agree.refl_undated _ s
  split
  · exact Agree.refl_undated _ _
  split
  · exact Agree.refl_undated _ s
  split
  · exact Agree.refl_undated _ s
  cases Inclusion.parseOffer p.payload with
  | error e => exact Agree.refl_undated _ s
  | ok offered => exact s.agree_acceptRequest now now' p.source offered.1 offered.2

theorem acceptOpen_undated (session : Session) :
    s.undated.acceptOpen session.undated p =
      ((s.acceptOpen session p).1, (s.acceptOpen session p).2.undated) := by
  unfold acceptOpen
  rw [Session.undated_bootstrap, undated_keys]
  cases session.bootstrap with
  | none => rfl
  | some bootstrap =>
    simp only
    cases s.keys.provider.unsealText bootstrap p.associatedData p.payload with
    | error e => rfl
    | ok claimed =>
      simp only
      split
      · rfl
      · cases s.keys.key with
        | none => rfl
        | some key => exact s.build_undated p.source .includeConfirm _

theorem agree_onOpen : Agree (s.undated.onOpen p now') (s.onOpen p now) := by
  unfold onOpen
  rw [undated_inclusion, Inclusion.expectStep_undated]
  generalize s.inclusion.expectStep p.source .awaitingOpen p.topic = expected
  rcases expected with ⟨expected, c⟩
  cases expected with
  | error e => exact Agree.refl_undated _ { s with inclusion := c }
  | ok session =>
    simp only [Except.map, acceptOpen_undated]
    generalize s.acceptOpen session p = accepted
    rcases accepted with ⟨result, s⟩
    cases result with
    | error e =>
      simp only [failPeer_undated]
      exact Agree.refl_undated _ _
    | ok reply =>
      refine ⟨rfl, undated_eq ?_ rfl rfl⟩
      rw [Inclusion.undated_putSession, Inclusion.undated_putSession]
      exact congrArg (Inclusion.putSession · p.source _) (Inclusion.undated_idem _)

theorem takeIn_undated (c : Inclusion) (peer : NodeId) :
    takeIn c.undated peer = (takeIn c peer).undated := by
  simp only [takeIn, Inclusion.undated, Inclusion.queue, Inclusion.eraseSession_undated]

theorem agree_onSuccess : Agree (s.undated.onSuccess p) (s.onSuccess p) := by
  unfold onSuccess
  rw [undated_inclusion, Inclusion.expectStep_undated]
  generalize s.inclusion.expectStep p.source .awaitingSuccess p.topic = expected
  rcases expected with ⟨expected, c⟩
  cases expected with
  | error e => exact Agree.refl_undated _ { s with inclusion := c }
  | ok session =>
    simp only [Except.map, failPeer_undated]
    rw [show s.undated.openSuccess p = s.openSuccess p from rfl]
    cases s.openSuccess p with
    | error e => exact Agree.refl_undated _ _
    | ok claimed =>
      simp only
      split
      · refine ⟨rfl, undated_eq ?_ rfl rfl⟩
        rw [takeIn_undated, Inclusion.undated_idem]
      · exact Agree.refl_undated _ _

theorem acceptResponse_undated (session : Session) :
    s.undated.acceptResponse session.undated p =
      ((s.acceptResponse session p).1, (s.acceptResponse session p).2.undated) := by
  unfold acceptResponse
  cases Inclusion.parseOffer p.payload with
  | error e => rfl
  | ok offered =>
    simp only
    rw [show s.undated.deriveBootstrap session.undated.keyPair offered.1 session.undated.nonce
      offered.2 s.undated.inclusion.nodeId p.source = s.deriveBootstrap session.keyPair offered.1
        session.nonce offered.2 s.inclusion.nodeId p.source from rfl]
    cases s.deriveBootstrap session.keyPair offered.1 session.nonce offered.2 s.inclusion.nodeId
      p.source with
    | error e => rfl
    | ok bootstrap =>
      simp only
      rw [undated_inclusion, Inclusion.undated_nodeId, buildSealed_undated]
      generalize s.buildSealed p.source .includeOpen bootstrap s.inclusion.nodeId.toBytes = built
      rcases built with ⟨result, s⟩
      cases result with
      | error e => rfl
      | ok reply => rfl

theorem agree_onResponse : Agree (s.undated.onResponse p now') (s.onResponse p now) := by
  unfold onResponse
  rw [undated_inclusion, Inclusion.ownSessionFor_undated]
  cases s.inclusion.ownSessionFor p.source p.topic with
  | error e => exact Agree.refl_undated _ s
  | ok session =>
    simp only [Except.map, acceptResponse_undated, failOwn_undated]
    rw [Session.undated_step]
    split
    · exact Agree.refl_undated _ _
    · generalize s.acceptResponse session p = accepted
      rcases accepted with ⟨result, s⟩
      cases result with
      | error e =>
        simp only [failOwn_undated]
        exact Agree.refl_undated _ _
      | ok agreed =>
        exact ⟨rfl, undated_eq (Inclusion.undated_setOwn rfl) rfl rfl⟩

theorem agree_onConfirm : Agree (s.undated.onConfirm p) (s.onConfirm p) := by
  unfold onConfirm
  rw [undated_inclusion, Inclusion.ownSessionFor_undated]
  cases s.inclusion.ownSessionFor p.source p.topic with
  | error e => exact Agree.refl_undated _ s
  | ok session =>
    simp only [Except.map, failOwn_undated]
    rw [Session.undated_step]
    split
    · exact Agree.refl_undated _ _
    · rw [show s.undated.openConfirm session.undated p = s.openConfirm session p from rfl]
      cases s.openConfirm session p with
      | error e => exact Agree.refl_undated _ _
      | ok key =>
        simp only
        rw [undated_keys]
        cases s.keys.install key with
        | error e => exact Agree.refl_undated _ _
        | ok keys =>
          simp only
          rw [show ({ inclusion := s.inclusion.undated, keys := keys, draws := s.undated.draws } :
              Party) = ({ s with keys := keys } : Party).undated from rfl,
            Inclusion.undated_nodeId, buildSealed_undated]
          generalize ({ s with keys := keys } : Party).buildSealed p.source .includeSuccess key
            s.inclusion.nodeId.toBytes = built
          rcases built with ⟨result, s⟩
          exact ⟨rfl, undated_eq (join s.inclusion p.source).undated_idem rfl rfl⟩

theorem agree_replied {r r' : Except InclusionError Packet × Party} (h : Agree r r') :
    Agree (replied r) (replied r') := by
  rcases r with ⟨result, s⟩
  rcases r' with ⟨result', s'⟩
  obtain ⟨hanswer, hrest⟩ := h
  cases hanswer
  cases result with
  | error e => exact ⟨rfl, hrest⟩
  | ok reply => exact ⟨rfl, hrest⟩

theorem agree_handle : Agree (s.undated.handle p now') (s.handle p now) := by
  unfold handle
  rw [show isAddressed s.undated.inclusion p = isAddressed s.inclusion p from rfl]
  split
  · exact Agree.refl_undated _ s
  cases p.topic with
  | includeRequest => exact agree_replied (s.agree_onRequest p now now')
  | includeOpen => exact agree_replied (s.agree_onOpen p now now')
  | includeResponse => exact agree_replied (s.agree_onResponse p now now')
  | includeConfirm => exact agree_replied (s.agree_onConfirm p)
  | includeSuccess =>
    have hagree := s.agree_onSuccess p
    simp only
    generalize s.undated.onSuccess p = r at hagree ⊢
    generalize s.onSuccess p = r' at hagree ⊢
    rcases r with ⟨result, after⟩
    rcases r' with ⟨result', after'⟩
    obtain ⟨hanswer, hrest⟩ := hagree
    cases hanswer
    cases result with
    | error e => exact ⟨rfl, hrest⟩
    | ok done => exact ⟨rfl, hrest⟩
  | _ => exact Agree.refl_undated _ s

/-- No message is told from a late one: parties that differ in deadlines only answer it
alike at any two times, and differ in deadlines only afterwards. -/
theorem handle_undated {s s' : Party} (h : s.undated = s'.undated) (p : Packet)
    (now now' : UInt64) :
    Agree (s.handle p now) (s'.handle p now') := by
  have hleft := s.agree_handle p now 0
  have hright := s'.agree_handle p now' 0
  rw [h] at hleft
  exact ⟨hleft.1.symm.trans hright.1, hleft.2.symm.trans hright.2⟩

end Party
end Meshwork
