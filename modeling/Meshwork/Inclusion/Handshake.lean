import Meshwork.Inclusion

/-! # The handshake

What one party does with the messages of a handshake. A message that is refused
either leaves everything as it was or ends the handshake that it belongs to. -/

namespace Meshwork
set_option autoImplicit false

/-- One end of handshakes, with the key it guards and the draws it may make. -/
structure Party where
  inclusion : Inclusion
  keys : KeyRing
  draws : Draws

namespace Party

def withDraws (s : Party) (draws : Draws) : Party := { s with draws := draws }

def failPeer (s : Party) (peer : NodeId) (reason : InclusionError) : Party :=
  { s with inclusion := s.inclusion.failPeer peer reason }

def failOwn (s : Party) (reason : InclusionError) : Party :=
  { s with inclusion := s.inclusion.failOwn reason }

/-- Lets a hub take requests, and gives it a mesh key if it has none. -/
def enable (s : Party) : Except MeshError Unit × Party :=
  if s.inclusion.role ≠ .hub then
    (.error (.invalidState "only a hub can enter inclusion mode"), s)
  else
    let opened : Party := { s with inclusion := { s.inclusion with accepting := true } }
    match s.keys.key with
    | some _ => (.ok (), opened)
    | none =>
      let (key, draws) := CryptoProvider.freshKey s.draws
      match s.keys.install key with
      | .error e => (.error (.key e), s.withDraws draws)
      | .ok keys => (.ok (), { opened with keys := keys, draws := draws })

/-- A session that starts now, with a nonce and a key pair of its own. -/
def newSession (s : Party) (peer : NodeId) (step : Step) (now : UInt64) : Session × Party :=
  let (nonce, draws) := s.draws.takeBlock 16
  let (keyPair, draws) := s.keys.provider.keyPair draws
  ({ peer := peer, step := step, deadline := now + s.inclusion.timeout, keyPair := keyPair,
     nonce := nonce },
   s.withDraws draws)

/-- Starts the handshake of this device; the request is to be broadcast. -/
def request (s : Party) (now : UInt64) : Except MeshError Packet × Party :=
  if s.inclusion.role ≠ .standard then
    (.error (.invalidState "a hub cannot be included"), s)
  else if s.inclusion.state = .included ∨ s.keys.hasKey then
    (.error (.invalidState "already included"), s)
  else if s.inclusion.own.isSome then
    (.error (.invalidState "inclusion already in progress"), s)
  else
    let (session, s) := s.newSession .broadcast .awaitingResponse now
    match Packet.create s.inclusion.nodeId .broadcast .includeRequest (Inclusion.offer session)
        s.draws with
    | (.error e, draws) => (.error (.packet e), s.withDraws draws)
    | (.ok p, draws) =>
      (.ok p,
        { s with
          inclusion := { s.inclusion with own := some session, state := .inclusionPending }
          draws := draws })

/-- A packet to one peer, whose payload is made from its own header. -/
def build (s : Party) (destination : NodeId) (topic : Topic)
    (payload : Bytes → Draws → Except CryptoError Bytes × Draws) :
    Except InclusionError Packet × Party :=
  match Packet.create s.inclusion.nodeId destination topic [] s.draws with
  | (.error e, draws) => (.error (.rejected e.message), s.withDraws draws)
  | (.ok p, draws) =>
    match payload p.associatedData draws with
    | (.error e, draws) => (.error (.crypto e), s.withDraws draws)
    | (.ok bs, draws) => (.ok { p with payload := bs }, s.withDraws draws)

def buildSealed (s : Party) (destination : NodeId) (topic : Topic) (key : MeshKey)
    (plain : Bytes) : Except InclusionError Packet × Party :=
  s.build destination topic fun aad draws => s.keys.provider.sealText key aad plain draws

def deriveBootstrap (s : Party) (own : KeyPair) (peerKey : Bytes.Block 32)
    (requestNonce responseNonce : Bytes.Block 16) (includee includer : NodeId) :
    Except CryptoError MeshKey :=
  s.keys.provider.derive own peerKey
    (Inclusion.bootstrapSalt s.inclusion.secret requestNonce responseNonce)
    (Inclusion.bootstrapInfo includee includer)

/-- Opens a session for a request that carries this offer, and answers it. -/
def acceptRequest (s : Party) (peer : NodeId) (peerKey : Bytes.Block 32)
    (peerNonce : Bytes.Block 16) (now : UInt64) : Except InclusionError Packet × Party :=
  let (session, s) := s.newSession peer .awaitingOpen now
  match s.deriveBootstrap session.keyPair peerKey peerNonce session.nonce peer
      s.inclusion.nodeId with
  | .error e => (.error (.crypto e), s)
  | .ok bootstrap =>
    let session := { session with bootstrap := some bootstrap }
    match s.build peer .includeResponse fun _ draws => (.ok (Inclusion.offer session), draws) with
    | (.error e, s) => (.error e, s)
    | (.ok reply, s) =>
      let inclusion :=
        { s.inclusion with included := s.inclusion.included.filter (· != peer) }
      (.ok reply, { s with inclusion := inclusion.putSession peer session })

/-- A hub meets a request. A second one in the middle of a session ends it,
since it could mix the keys of two handshakes. -/
def onRequest (s : Party) (p : Packet) (now : UInt64) : Except InclusionError Packet × Party :=
  if s.inclusion.role ≠ .hub then (.error (.rejected "not an includer"), s)
  else if !s.inclusion.accepting then (.error .notInInclusionMode, s)
  else if s.inclusion.hasSession p.source then
    (.error (.outOfSequence .includeRequest),
      s.failPeer p.source (.outOfSequence .includeRequest))
  else if s.inclusion.maxSessions ≤ s.inclusion.sessions.length then (.error .sessionLimit, s)
  else if !s.keys.hasKey then (.error (.key .missing), s)
  else
    match Inclusion.parseOffer p.payload with
    | .error e => (.error e, s)
    | .ok (peerKey, peerNonce) => s.acceptRequest p.source peerKey peerNonce now

/-- Checks that an opening names its sender, and confirms it with the mesh key. -/
def acceptOpen (s : Party) (session : Session) (p : Packet) :
    Except InclusionError Packet × Party :=
  match session.bootstrap with
  | none => (.error (.crypto .invalidKey), s)
  | some bootstrap =>
    match s.keys.provider.unsealText bootstrap p.associatedData p.payload with
    | .error e => (.error (.crypto e), s)
    | .ok claimed =>
      if claimed ≠ p.source.toBytes then (.error (.rejected "identity mismatch"), s)
      else
        match s.keys.key with
        | none => (.error (.key .missing), s)
        | some key => s.buildSealed p.source .includeConfirm bootstrap key.toBytes

def onOpen (s : Party) (p : Packet) (now : UInt64) : Except InclusionError Packet × Party :=
  match s.inclusion.expectStep p.source .awaitingOpen p.topic with
  | (.error e, inclusion) => (.error e, { s with inclusion := inclusion })
  | (.ok session, _) =>
    match s.acceptOpen session p with
    | (.error e, s) => (.error e, s.failPeer p.source e)
    | (.ok reply, s) =>
      let session :=
        { session with step := .awaitingSuccess, deadline := now + s.inclusion.timeout }
      (.ok reply, { s with inclusion := s.inclusion.putSession p.source session })

/-- The node that a success names, if it is sealed under the mesh key. -/
def openSuccess (s : Party) (p : Packet) : Except InclusionError Bytes :=
  match s.keys.key with
  | none => .error (.key .missing)
  | some key =>
    match s.keys.provider.unsealText key p.associatedData p.payload with
    | .error e => .error (.crypto e)
    | .ok claimed => .ok claimed

/-- Takes a peer in and ends its session. -/
def takeIn (c : Inclusion) (peer : NodeId) : Inclusion :=
  { c with
    sessions := Inclusion.eraseSession peer c.sessions
    included := peer :: c.included.filter (· != peer) }.queue (.included peer)

def onSuccess (s : Party) (p : Packet) : Except InclusionError Unit × Party :=
  match s.inclusion.expectStep p.source .awaitingSuccess p.topic with
  | (.error e, inclusion) => (.error e, { s with inclusion := inclusion })
  | (.ok _, _) =>
    match s.openSuccess p with
    | .error e => (.error e, s.failPeer p.source e)
    | .ok claimed =>
      if claimed = p.source.toBytes then
        (.ok (), { s with inclusion := takeIn s.inclusion p.source })
      else
        (.error (.rejected "identity mismatch"),
          s.failPeer p.source (.rejected "identity mismatch"))

/-- Agrees with a hub on the key of the handshake, and opens under it. -/
def acceptResponse (s : Party) (session : Session) (p : Packet) :
    Except InclusionError (MeshKey × Packet) × Party :=
  match Inclusion.parseOffer p.payload with
  | .error e => (.error e, s)
  | .ok (hubKey, hubNonce) =>
    match s.deriveBootstrap session.keyPair hubKey session.nonce hubNonce s.inclusion.nodeId
        p.source with
    | .error e => (.error (.crypto e), s)
    | .ok bootstrap =>
      match s.buildSealed p.source .includeOpen bootstrap s.inclusion.nodeId.toBytes with
      | (.error e, s) => (.error e, s)
      | (.ok reply, s) => (.ok (bootstrap, reply), s)

def onResponse (s : Party) (p : Packet) (now : UInt64) : Except InclusionError Packet × Party :=
  match s.inclusion.ownSessionFor p.source p.topic with
  | .error e => (.error e, s)
  | .ok session =>
    if session.step ≠ .awaitingResponse then
      (.error (.outOfSequence p.topic), s.failOwn (.outOfSequence p.topic))
    else
      match s.acceptResponse session p with
      | (.error e, s) => (.error e, s.failOwn e)
      | (.ok (bootstrap, reply), s) =>
        let session :=
          { session with
            peer := p.source
            bootstrap := some bootstrap
            step := .awaitingConfirm
            deadline := now + s.inclusion.timeout }
        (.ok reply, { s with inclusion := { s.inclusion with own := some session } })

/-- The mesh key that a confirmation carries. -/
def openConfirm (s : Party) (session : Session) (p : Packet) : Except InclusionError MeshKey :=
  match session.bootstrap with
  | none => .error (.crypto .invalidKey)
  | some bootstrap =>
    match s.keys.provider.unsealText bootstrap p.associatedData p.payload with
    | .error e => .error (.crypto e)
    | .ok raw =>
      match MeshKey.ofBytes raw with
      | .error e => .error (.crypto e)
      | .ok key => .ok key

/-- A device that holds the mesh key is in, even if its last message cannot be
built. -/
def join (c : Inclusion) (hub : NodeId) : Inclusion :=
  { c with own := none, state := .included }.queue (.included hub)

def onConfirm (s : Party) (p : Packet) : Except InclusionError Packet × Party :=
  match s.inclusion.ownSessionFor p.source p.topic with
  | .error e => (.error e, s)
  | .ok session =>
    if session.step ≠ .awaitingConfirm then
      (.error (.outOfSequence p.topic), s.failOwn (.outOfSequence p.topic))
    else
      match s.openConfirm session p with
      | .error e => (.error e, s.failOwn e)
      | .ok key =>
        match s.keys.install key with
        | .error e => (.error (.key e), s.failOwn (.key e))
        | .ok keys =>
          let s := { s with keys := keys }
          let (reply, s) := s.buildSealed p.source .includeSuccess key s.inclusion.nodeId.toBytes
          (reply, { s with inclusion := join s.inclusion p.source })

def isAddressed (c : Inclusion) (p : Packet) : Bool :=
  p.destination == c.nodeId || (p.isBroadcast && p.topic == .includeRequest)

def replied (result : Except InclusionError Packet × Party) :
    Except InclusionError (Option Packet) × Party :=
  match result with
  | (.ok reply, s) => (.ok (some reply), s)
  | (.error e, s) => (.error e, s)

def handle (s : Party) (p : Packet) (now : UInt64) :
    Except InclusionError (Option Packet) × Party :=
  if !isAddressed s.inclusion p then (.error (.rejected "not addressed to this node"), s)
  else
    match p.topic with
    | .includeRequest => replied (s.onRequest p now)
    | .includeOpen => replied (s.onOpen p now)
    | .includeSuccess =>
      match s.onSuccess p with
      | (.ok (), s) => (.ok none, s)
      | (.error e, s) => (.error e, s)
    | .includeResponse => replied (s.onResponse p now)
    | .includeConfirm => replied (s.onConfirm p)
    | other => (.error (.outOfSequence other), s)

end Party
end Meshwork
