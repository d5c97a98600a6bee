import Meshwork.Node

/-! # Duplicates

A tracker remembers which messages were seen within a window of time, up to a
number of them. The order of recording is kept in a queue beside the memory; a
message recorded again after its time leaves its old place in the queue, where
it no longer counts. -/

namespace Meshwork
set_option autoImplicit false

/-- The source of a message and its identifier there. -/
abbrev MessageKey := NodeId × UInt32

inductive Observation where
  | fresh | duplicate
deriving DecidableEq, Repr

def Observation.label : Observation → String
  | fresh => "Fresh"
  | duplicate => "Duplicate"

structure DuplicateTracker where
  window : Nat
  capacity : Nat
  seen : List (MessageKey × Nat) := []
  /-- What was recorded when, oldest first. -/
  order : List (MessageKey × Nat) := []
deriving DecidableEq

namespace DuplicateTracker

/-- A tracker holds at least one message. -/
def create (window capacity : Nat) : DuplicateTracker :=
  { window := window, capacity := max capacity 1 }

def initial : DuplicateTracker := create 60000 50

def stamp? (t : DuplicateTracker) (key : MessageKey) : Option Nat := t.seen.lookup key

def size (t : DuplicateTracker) : Nat := t.seen.length

def isRecent (t : DuplicateTracker) (now stamp : Nat) : Bool := now - stamp < t.window

/-- Whether a message was recorded within the window. -/
def contains (t : DuplicateTracker) (key : MessageKey) (now : Nat) : Bool :=
  match t.stamp? key with
  | some stamp => t.isRecent now stamp
  | none => false

def eraseKey (key : MessageKey) (seen : List (MessageKey × Nat)) : List (MessageKey × Nat) :=
  seen.filter (·.1 != key)

/-- Whether an entry of the queue is the message's latest. -/
def isCurrent (seen : List (MessageKey × Nat)) (entry : MessageKey × Nat) : Bool :=
  seen.lookup entry.1 == some entry.2

/-- Forgets from the front of the queue until the memory fits. -/
def trim (capacity : Nat) :
    List (MessageKey × Nat) → List (MessageKey × Nat) →
      List (MessageKey × Nat) × List (MessageKey × Nat)
  | seen, [] => (seen, [])
  | seen, entry :: order =>
    if seen.length ≤ capacity then (seen, entry :: order)
    else if isCurrent seen entry then trim capacity (eraseKey entry.1 seen) order
    else trim capacity seen order

def record (t : DuplicateTracker) (key : MessageKey) (now : Nat) : DuplicateTracker :=
  let (seen, order) := trim t.capacity ((key, now) :: eraseKey key t.seen) (t.order ++ [(key, now)])
  { t with seen := seen, order := order }

def observe (t : DuplicateTracker) (key : MessageKey) (now : Nat) :
    Observation × DuplicateTracker :=
  if t.contains key now then (.duplicate, t) else (.fresh, t.record key now)

/-- Forgets from the front of the queue what is past the window, and counts
what it forgets. -/
def dropExpired (window now : Nat) :
    List (MessageKey × Nat) → List (MessageKey × Nat) → Nat →
      List (MessageKey × Nat) × List (MessageKey × Nat) × Nat
  | seen, [], removed => (seen, [], removed)
  | seen, entry :: order, removed =>
    if now - entry.2 < window then (seen, entry :: order, removed)
    else if isCurrent seen entry then
      dropExpired window now (eraseKey entry.1 seen) order (removed + 1)
    else dropExpired window now seen order removed

def evictExpired (t : DuplicateTracker) (now : Nat) : Nat × DuplicateTracker :=
  let (seen, order, removed) := dropExpired t.window now t.seen t.order 0
  (removed, { t with seen := seen, order := order })

end DuplicateTracker
end Meshwork
