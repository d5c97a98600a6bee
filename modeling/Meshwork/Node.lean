import Meshwork.Text.Hex
import Meshwork.Draws

/-! # Node identifiers

Four bytes, ordered as the number they spell. All ones addresses everybody;
all zeros stands for nobody yet. -/

namespace Meshwork
set_option autoImplicit false

structure NodeId where
  value : UInt32
deriving DecidableEq, Repr, Inhabited

namespace NodeId

def broadcast : NodeId := ⟨0xFFFFFFFF⟩

def unknown : NodeId := ⟨0⟩

def isBroadcast (id : NodeId) : Bool := id == broadcast

def isUnknown (id : NodeId) : Bool := id == unknown

/-- Broadcast and unknown name no device. -/
def isReserved (id : NodeId) : Bool := id.isBroadcast || id.isUnknown

def toBytes (id : NodeId) : Bytes := Bytes.bigEndian 4 id.value.toNat

def ofBytes (bs : Bytes) : NodeId := ⟨UInt32.ofNat (Bytes.ofBigEndian bs)⟩

def compare (a b : NodeId) : Ordering := Ord.compare a.value.toNat b.value.toNat

def text (id : NodeId) : String := Hex.word id.value

def describe (id : NodeId) : String := "NodeId(" ++ id.text ++ ")"

@[simp] theorem length_toBytes (id : NodeId) : id.toBytes.length = 4 := by simp [toBytes]

theorem ofBytes_toBytes (id : NodeId) : ofBytes id.toBytes = id := by
  cases id with
  | mk value =>
    have h : value.toNat < Bytes.span 4 := value.toNat_lt
    rw [ofBytes, toBytes, Bytes.ofBigEndian_bigEndian, Nat.mod_eq_of_lt h, UInt32.ofNat_toNat]

theorem toBytes_ofBytes (bs : Bytes) (h : bs.length = 4) : (ofBytes bs).toBytes = bs := by
  have hback : Bytes.bigEndian 4 (Bytes.ofBigEndian bs) = bs := h ▸ Bytes.bigEndian_ofBigEndian bs
  have hmod := Bytes.ofBigEndian_bigEndian 4 (Bytes.ofBigEndian bs)
  rw [hback] at hmod
  have hword : (UInt32.ofNat (Bytes.ofBigEndian bs)).toNat = Bytes.ofBigEndian bs :=
    UInt32.toNat_ofNat'.trans hmod.symm
  rw [ofBytes, toBytes, hword, hback]

/-- A drawn identifier: the first bytes of four draws, drawn anew while the
result is reserved, for at most `attempts` times. -/
def random : Nat → Draws → Option NodeId × Draws
  | 0, draws => (none, draws)
  | attempts + 1, draws =>
    let (a, draws) := draws.take 4
    let (b, draws) := draws.take 4
    let (c, draws) := draws.take 4
    let (d, draws) := draws.take 4
    let id := ofBytes (a.take 1 ++ b.take 1 ++ c.take 1 ++ d.take 1)
    if id.isReserved then random attempts draws else (some id, draws)

end NodeId
end Meshwork
