import StatusPanel.Deflate.Bits

/-!
# Prefix codes

A code gives each symbol a string of bits, none of which begins another. Codes are determined by
the lengths of their strings: shorter strings come before longer ones, and strings of one length
are in the order of their symbols.
-/

namespace StatusPanel.Deflate

/-- A code as a tree: a bit string leads from the root to its symbol. -/
inductive Code where
  | unused
  | symbol (n : Nat)
  | fork (zero one : Code)

namespace Code

/-- Adds a symbol at the end of a bit string. -/
def insert (n : Nat) : List Bool → Code → Code
  | [], _ => .symbol n
  | bit :: bits, .fork zero one =>
    if bit then .fork zero (insert n bits one) else .fork (insert n bits zero) one
  | bit :: bits, _ =>
    if bit then .fork .unused (insert n bits .unused) else .fork (insert n bits .unused) .unused

/-- The `length` lowest bits of a number, the highest first. -/
def bitString (n : Nat) : (length : Nat) → List Bool
  | 0 => []
  | length + 1 => n.testBit length :: bitString n length

/-- The first bit string of a length, as a number. -/
def firstOfLength (lengths : List Nat) : Nat → Nat
  | 0 => 0
  | length + 1 =>
    2 * (firstOfLength lengths length + if length = 0 then 0 else lengths.count length)

/-- The code whose strings have the given lengths; a symbol of length zero has none. -/
def ofLengths (lengths : List Nat) : Code :=
  lengths.zipIdx.foldl (fun code (length, n) =>
    if length = 0 then code
    else
      let earlier := (lengths.take n).count length
      code.insert n (bitString (firstOfLength lengths length + earlier) length)) .unused

/-- The share of all bit strings that begin with one of these lengths, in parts of `2 ^ 15`. -/
def share (lengths : List Nat) : Nat :=
  lengths.foldl (fun sum length => if length = 0 then sum else sum + (1 <<< (15 - length))) 0

/-- The code whose strings have the given lengths, if it uses all bit strings. -/
def complete? (lengths : List Nat) : Option Code :=
  if share lengths = 1 <<< 15 then some (ofLengths lengths) else none

/-- Reads a symbol. -/
def read? (bits : Bits) : Code → Option (Nat × Bits)
  | .unused => none
  | .symbol n => some (n, bits)
  | .fork zero one =>
    match bits.next? with
    | none => none
    | some (bit, bits) => if bit then one.read? bits else zero.read? bits

end Code

end StatusPanel.Deflate
