/-!
# Checksums

The two checksums of compressed data: `Checksum.adler32`, two sums modulo a prime, and `Checksum.crc32`, a
remainder of polynomials.
-/

namespace BlockingQuery.Checksum

/-- The modulus of the sums. -/
def modulus : Nat := 65521

/-- The sum of the bytes, begun at one, and the sum of all those sums. -/
def adler32 (bs : Array UInt8) : Nat :=
  let (a, b) := bs.foldl
    (fun (a, b) byte =>
      let a := (a + byte.toNat) % modulus
      (a, (b + a) % modulus)) (1, 0)
  b * 65536 + a

/-- One bit of a division by the polynomial `0xEDB88320`, whose bits stand in reverse. -/
def divideBit (r : UInt32) : UInt32 :=
  if r &&& 1 == 1 then (r >>> 1) ^^^ 0xEDB88320 else r >>> 1

/-- One byte of a division. -/
def divideByte (r : UInt32) (byte : UInt8) : UInt32 :=
  (List.range 8).foldl (fun r _ => divideBit r) (r ^^^ byte.toUInt32)

/-- The remainder of the bytes, inverted before and after. -/
def crc32 (bs : Array UInt8) : Nat :=
  (bs.foldl divideByte 0xFFFFFFFF ^^^ 0xFFFFFFFF).toNat

end BlockingQuery.Checksum
