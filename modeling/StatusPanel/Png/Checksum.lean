import StatusPanel.Bytes

/-!
# Checksums

The two checksums of a picture file: the remainder of a polynomial division, for chunks, and a pair
of sums, for compressed data.
-/

namespace StatusPanel.Png

/-- One step of the polynomial division, on the lowest bit. -/
def divideBit (remainder : UInt32) : UInt32 :=
  if remainder &&& 1 = 1 then (remainder >>> 1) ^^^ 0xEDB88320 else remainder >>> 1

/-- Takes one byte into the remainder. -/
def divideByte (remainder : UInt32) (b : UInt8) : UInt32 :=
  let r := remainder ^^^ b.toUInt32
  divideBit (divideBit (divideBit (divideBit (divideBit (divideBit (divideBit (divideBit r)))))))

/-- The checksum of a chunk. -/
def cyclicChecksum (bytes : Bytes) : Nat :=
  (bytes.foldl divideByte 0xFFFFFFFF ^^^ 0xFFFFFFFF).toNat

/-- The modulus of the sums. -/
def sumModulus : Nat := 65521

/-- The checksum of compressed data: the sum of the bytes, and the sum of these sums. -/
def sumChecksum (bytes : Bytes) : Nat :=
  let (low, high) := bytes.foldl (fun (low, high) (b : UInt8) =>
    let low := (low + b.toNat) % sumModulus
    (low, (high + low) % sumModulus)) (1, 0)
  high * 65536 + low

end StatusPanel.Png
