/-!
# The checksum of a gzip member

The cyclic redundancy check with the reflected polynomial `0xEDB88320`, eight bits
at a time.
-/
namespace ObjectRelay.Gzip

/-- Eight steps of the division, one per bit. -/
def crcBits : Nat → UInt32 → UInt32
  | 0, c => c
  | n + 1, c => crcBits n (if c &&& 1 == 1 then (c >>> 1) ^^^ 0xEDB88320 else c >>> 1)

/-- What each byte contributes. -/
def crcTable : Array UInt32 := (Array.range 256).map fun n => crcBits 8 n.toUInt32

def crcStep (c : UInt32) (b : UInt8) : UInt32 :=
  crcTable.getD ((c ^^^ b.toUInt32) &&& 0xFF).toNat 0 ^^^ (c >>> 8)

def crc32 (bytes : Array UInt8) : UInt32 :=
  bytes.foldl crcStep 0xFFFFFFFF ^^^ 0xFFFFFFFF

end ObjectRelay.Gzip
