import Meshwork.Bytes

/-! # Checksums

The 32-bit cyclic redundancy check over bits taken lowest first, with the
register started and finished inverted. -/

namespace Meshwork.Checksum
set_option autoImplicit false

def polynomial : UInt32 := 0xEDB88320

def bitStep (register : UInt32) : UInt32 :=
  if register &&& 1 = 1 then (register >>> 1) ^^^ polynomial else register >>> 1

def bitSteps : Nat → UInt32 → UInt32
  | 0, register => register
  | n + 1, register => bitSteps n (bitStep register)

def byteStep (register : UInt32) (b : UInt8) : UInt32 :=
  bitSteps 8 (register ^^^ b.toUInt32)

def crc32 (bs : Bytes) : UInt32 := bs.foldl byteStep 0xFFFFFFFF ^^^ 0xFFFFFFFF

end Meshwork.Checksum
