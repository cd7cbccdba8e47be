import StatusPanel.Bytes

/-!
# Bit strings

Bytes read bit by bit, the lowest bit of a byte first.
-/

namespace StatusPanel.Deflate

/-- What is left to read: some bits of a byte, then whole bytes. -/
structure Bits where
  current : List Bool := []
  bytes : Bytes

/-- The bits of a byte, the lowest first. -/
def bitsOf (b : UInt8) : List Bool :=
  (List.range 8).map b.toNat.testBit

namespace Bits

/-- How many bits are left. -/
def length (b : Bits) : Nat :=
  b.current.length + 8 * b.bytes.length

/-- The next bit. -/
def next? : Bits → Option (Bool × Bits)
  | ⟨bit :: current, bytes⟩ => some (bit, ⟨current, bytes⟩)
  | ⟨[], byte :: bytes⟩ =>
    match bitsOf byte with
    | bit :: current => some (bit, ⟨current, bytes⟩)
    | [] => none
  | ⟨[], []⟩ => none

/-- A number of `count` bits, the lowest first. -/
def number? (b : Bits) : (count : Nat) → Option (Nat × Bits)
  | 0 => some (0, b)
  | count + 1 => do
    let (bit, b) ← b.next?
    let (n, b) ← b.number? count
    return (bit.toNat + 2 * n, b)

end Bits

end StatusPanel.Deflate
