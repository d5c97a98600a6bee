import Meshwork.Crypto.Aes

/-! # Authenticated encryption

The block cipher in counter mode, with a tag of 16 bytes over the associated
data and the ciphertext. Opening recomputes the tag first and gives nothing
away when it differs. -/

namespace Meshwork.Gcm
set_option autoImplicit false

/-- 128 bits, the first of them highest in `high`. -/
structure Element where
  high : UInt64
  low : UInt64

namespace Element

def zero : Element := ⟨0, 0⟩

def add (a b : Element) : Element := ⟨a.high ^^^ b.high, a.low ^^^ b.low⟩

/-- Multiplication by x, towards the last bit. -/
def shift (a : Element) : Element :=
  let low := (a.low >>> 1) ||| (a.high <<< 63)
  let high := a.high >>> 1
  if a.low &&& 1 = 1 then ⟨high ^^^ 0xE100000000000000, low⟩ else ⟨high, low⟩

/-- Adds the multiples of `b` that the top `n` bits of `bits` ask for. -/
def mulWord : Nat → UInt64 → Element → Element → Element × Element
  | 0, _, b, sum => (b, sum)
  | n + 1, bits, b, sum =>
    mulWord n (bits <<< 1) b.shift (if bits >>> 63 = 1 then sum.add b else sum)

def mul (a b : Element) : Element :=
  let (b, sum) := mulWord 64 a.high b zero
  (mulWord 64 a.low b sum).2

def ofBytes (bs : Bytes) : Element :=
  let bs := Bytes.fit 16 bs
  ⟨UInt64.ofNat (Bytes.ofBigEndian (bs.take 8)), UInt64.ofNat (Bytes.ofBigEndian (bs.drop 8))⟩

def toBytes (a : Element) : Bytes :=
  Bytes.bigEndian 8 a.high.toNat ++ Bytes.bigEndian 8 a.low.toNat

end Element

def nonceLength : Nat := 12
def tagLength : Nat := 16

/-- The hash of the associated data, the ciphertext and their lengths in bits. -/
def digest (h : Element) (aad text : Bytes) : Element :=
  let lengths := Bytes.bigEndian 8 (8 * aad.length) ++ Bytes.bigEndian 8 (8 * text.length)
  (Bytes.chunks 16 aad ++ Bytes.chunks 16 text ++ [lengths]).foldl
    (fun sum piece => (sum.add (.ofBytes piece)).mul h) .zero

def counterBlock (nonce : Bytes) (n : Nat) : Bytes := nonce ++ Bytes.bigEndian 4 n

/-- Encrypts and decrypts: adds the stream of enciphered counters from two on. -/
def applyStream (keys : List (Array UInt8)) (nonce text : Bytes) : Bytes :=
  (Bytes.chunks 16 text).zipIdx.flatMap fun (piece, i) =>
    Bytes.xor piece (Aes.encipher keys (counterBlock nonce (i + 2)))

def tag (keys : List (Array UInt8)) (nonce aad text : Bytes) : Bytes :=
  let h := Element.ofBytes (Aes.encipher keys (List.replicate 16 0))
  Bytes.xor (digest h aad text).toBytes (Aes.encipher keys (counterBlock nonce 1))

def encrypt (key nonce aad plain : Bytes) : Bytes :=
  let keys := Aes.roundKeys key
  let text := applyStream keys nonce plain
  text ++ tag keys nonce aad text

def decrypt (key nonce aad tagged : Bytes) : Option Bytes :=
  let keys := Aes.roundKeys key
  let text := tagged.take (tagged.length - tagLength)
  if tagged.drop (tagged.length - tagLength) = tag keys nonce aad text then
    some (applyStream keys nonce text)
  else none

end Meshwork.Gcm
