import Interpose.Bytes

/-!
# Checksums of compressed streams

The two checksums that compressed formats carry: CRC-32, the remainder of a division of
polynomials over two elements, and Adler-32, a sum of bytes and a sum of those sums.
-/

namespace Interpose

/-- Divide one bit further by the reflected polynomial of CRC-32. -/
def crcShift (r : UInt32) : UInt32 :=
  if r &&& 1 = 1 then (r >>> 1) ^^^ 0xEDB88320 else r >>> 1

/-- Take a byte into the remainder. -/
def crcByte (r : UInt32) (b : UInt8) : UInt32 :=
  let r := r ^^^ b.toUInt32
  crcShift (crcShift (crcShift (crcShift (crcShift (crcShift (crcShift (crcShift r)))))))

/-- The CRC-32 checksum. -/
def crc32 (s : Bytes) : UInt32 := s.foldl crcByte 0xFFFFFFFF ^^^ 0xFFFFFFFF

/-- The Adler-32 checksum. -/
def adler32 (s : Bytes) : Nat :=
  let (a, b) := s.foldl
    (fun (a, b) x => let a := (a + x.toNat) % 65521; (a, (b + a) % 65521)) (1, 0)
  b * 65536 + a

end Interpose
