import Meshwork.Config
import Meshwork.KeyRing
import Meshwork.Membership
import Meshwork.Packet

/-! # Inclusion

A device joins through a hub in five messages: a request and a response that
carry public keys and nonces, an opening sealed under the key agreed on, a
confirmation that carries the mesh key, and a success sealed under it. A device
has one handshake of its own, a hub one for every peer. Whatever ends one is
queued as one event. -/

namespace Meshwork
set_option autoImplicit false

inductive Step where
  | awaitingResponse | awaitingConfirm | awaitingOpen | awaitingSuccess
deriving DecidableEq, Repr

structure Session where
  /-- The other end; broadcast until a hub has answered. -/
  peer : NodeId
  step : Step
  /-- When it is overdue, by a clock that starts over when its word is full. -/
  deadline : UInt64
  keyPair : KeyPair
  nonce : Bytes.Block 16
  bootstrap : Option MeshKey := none
deriving DecidableEq

structure Inclusion where
  nodeId : NodeId
  role : Role
  timeout : UInt64
  maxSessions : Nat
  secret : Option (Bytes.Block 32)
  state : Membership
  accepting : Bool := false
  /-- The handshake of a device that wants to join. -/
  own : Option Session := none
  sessions : List (NodeId × Session) := []
  included : List NodeId := []
  events : List InclusionEvent := []
deriving DecidableEq

namespace Inclusion

def initialState : Role → Membership
  | .hub => .included
  | .standard => .notIncluded

def create (c : Config) : Inclusion where
  nodeId := c.nodeId
  role := c.role
  timeout := c.inclusionTimeout
  maxSessions := c.maxInclusionSessions.toNat
  secret := c.inclusionSecret
  state := initialState c.role

def session? (c : Inclusion) (peer : NodeId) : Option Session := c.sessions.lookup peer

def hasSession (c : Inclusion) (peer : NodeId) : Bool := (c.session? peer).isSome

def ownPeerIs (c : Inclusion) (peer : NodeId) : Bool :=
  match c.own with
  | some s => s.peer == peer
  | none => false

/-- Takes up a remembered membership; a hub has always been included. -/
def restore (c : Inclusion) (state : Membership) : Inclusion :=
  if c.role = .standard then { c with state := state } else c

def reset (c : Inclusion) : Inclusion :=
  { c with own := none, state := if c.role = .standard then .notIncluded else c.state }

/-- The membership of a peer as far as this device knows. -/
def stateOf (c : Inclusion) (peer : NodeId) : Membership :=
  if c.hasSession peer || c.ownPeerIs peer then .inclusionPending
  else if peer ∈ c.included then .included
  else .notIncluded

def activeSessions (c : Inclusion) : Nat := c.sessions.length + if c.own.isSome then 1 else 0

def disable (c : Inclusion) : Inclusion := { c with accepting := false }

def eraseSession (peer : NodeId) (sessions : List (NodeId × Session)) : List (NodeId × Session) :=
  sessions.filter (·.1 != peer)

def putSession (c : Inclusion) (peer : NodeId) (s : Session) : Inclusion :=
  { c with sessions := eraseSession peer c.sessions ++ [(peer, s)] }

def queue (c : Inclusion) (event : InclusionEvent) : Inclusion :=
  { c with events := c.events ++ [event] }

def failPeer (c : Inclusion) (peer : NodeId) (reason : InclusionError) : Inclusion :=
  if c.hasSession peer then
    { c with sessions := eraseSession peer c.sessions }.queue (.failed peer reason)
  else c

def failOwn (c : Inclusion) (reason : InclusionError) : Inclusion :=
  match c.own with
  | some s => { c with own := none, state := .notIncluded }.queue (.failed s.peer reason)
  | none => c

def isOverdue (now : UInt64) (s : Session) : Bool := s.deadline ≤ now

/-- The peers whose sessions are past their deadlines. -/
def overduePeers (c : Inclusion) (now : UInt64) : List NodeId :=
  (c.sessions.filter fun entry => isOverdue now entry.2).map (·.1)

def failOverdueOwn (c : Inclusion) (now : UInt64) : Inclusion :=
  match c.own with
  | some s => if isOverdue now s then c.failOwn .timeout else c
  | none => c

def checkTimeouts (c : Inclusion) (now : UInt64) : Inclusion :=
  ((c.overduePeers now).foldl (fun c peer => c.failPeer peer .timeout) c).failOverdueOwn now

def drain (c : Inclusion) : List InclusionEvent × Inclusion := (c.events, { c with events := [] })

/-- Whether the session with a peer waits for a message of this topic; one
that waits for another message ends here. -/
def expectStep (c : Inclusion) (peer : NodeId) (step : Step) (topic : Topic) :
    Except InclusionError Session × Inclusion :=
  match c.session? peer with
  | some s =>
    if s.step = step then (.ok s, c)
    else (.error (.outOfSequence topic), c.failPeer peer (.outOfSequence topic))
  | none => (.error (.rejected ("no session with " ++ peer.text)), c)

/-- The handshake of this device, if a message of this hub can belong to it. -/
def ownSessionFor (c : Inclusion) (hub : NodeId) (topic : Topic) : Except InclusionError Session :=
  match c.own with
  | some s =>
    if s.peer.isBroadcast || s.peer == hub then .ok s
    else .error (.rejected (hub.text ++ " is not our includer"))
  | none => .error (.outOfSequence topic)

/-- Public key and nonce, as requests and responses carry them. -/
def offer (s : Session) : Bytes := s.keyPair.publicKey.val ++ s.nonce.val

def offerLength : Nat := 48

def parseOffer (payload : Bytes) :
    Except InclusionError (Bytes.Block 32 × Bytes.Block 16) :=
  if payload.length ≠ offerLength then
    .error (.rejected ("offer must be " ++ toString offerLength ++ " bytes, got "
      ++ toString payload.length))
  else .ok (Bytes.block 32 (payload.take 32), Bytes.block 16 (payload.drop 32))

@[simp] theorem length_offer (s : Session) : (offer s).length = offerLength := by
  rw [offer, List.length_append, s.keyPair.publicKey.property, s.nonce.property, offerLength]

/-- Whoever gets an offer reads what its sender has drawn. -/
theorem parseOffer_offer (s : Session) :
    parseOffer (offer s) = .ok (s.keyPair.publicKey, s.nonce) := by
  have hkey : s.keyPair.publicKey.val.length = 32 := s.keyPair.publicKey.property
  unfold parseOffer
  rw [if_neg (Decidable.not_not.mpr (length_offer s)), offer, List.take_left' hkey,
    List.drop_left' hkey, Bytes.block_val, Bytes.block_val]

def purpose : Bytes := Bytes.ofText "radiomesh/inclusion/v1"

def bootstrapSalt (secret : Option (Bytes.Block 32)) (request response : Bytes.Block 16) : Bytes :=
  request.val ++ response.val ++
    match secret with
    | some bs => bs.val
    | none => []

def bootstrapInfo (includee includer : NodeId) : Bytes :=
  purpose ++ includee.toBytes ++ includer.toBytes

end Inclusion
end Meshwork
