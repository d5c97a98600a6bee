import Meshwork.Error

/-! # Storage

Byte strings under text keys. Writes can be made to fail, all of them or those
with certain numbers, and so can reads of one key; a write that fails leaves
the old value. -/

namespace Meshwork
set_option autoImplicit false

structure Storage where
  entries : List (String × Bytes) := []
  writes : Nat := 0
  /-- Whether the write with the given number is rejected. -/
  rejectsWrite : Nat → Bool := fun _ => false
  rejectedRead : Option String := none

namespace Storage

def meshKey : String := "mk"
def inclusionState : String := "is"
def routes : String := "rt"

def get? (s : Storage) (key : String) : Option Bytes := s.entries.lookup key

def contains (s : Storage) (key : String) : Bool := (s.get? key).isSome

def size (s : Storage) : Nat := s.entries.length

def read (s : Storage) (key : String) : Except StorageError Bytes :=
  if s.rejectedRead = some key then .error (.failure ("read of " ++ key ++ " rejected"))
  else
    match s.get? key with
    | some value => .ok value
    | none => .error (.notFound key)

/-- A missing value is no error here. -/
def readOptional (s : Storage) (key : String) : Except StorageError (Option Bytes) :=
  match s.read key with
  | .ok value => .ok (some value)
  | .error (.notFound _) => .ok none
  | .error e => .error e

def erase (key : String) (entries : List (String × Bytes)) : List (String × Bytes) :=
  entries.filter (·.1 != key)

def write (s : Storage) (key : String) (value : Bytes) : Except StorageError Unit × Storage :=
  let rejected := s.rejectsWrite s.writes
  let s := { s with writes := s.writes + 1 }
  if rejected then (.error (.failure ("write to " ++ key ++ " rejected")), s)
  else (.ok (), { s with entries := (key, value) :: erase key s.entries })

def remove (s : Storage) (key : String) : Storage :=
  { s with entries := erase key s.entries }

def failWrites (s : Storage) (on : Bool) : Storage := { s with rejectsWrite := fun _ => on }

def failRead (s : Storage) (key : Option String) : Storage := { s with rejectedRead := key }

end Storage
end Meshwork
