import StatusPanel.Deflate.Code

/-!
# Compressed data

Compressed data are a sequence of blocks: plain bytes, or symbols of a code that stand for bytes
and for repetitions of what came before. `store` writes blocks of plain bytes only.
-/

namespace StatusPanel.Deflate

/-! ## Symbols -/

/-- The base and the number of extra bits of an entry of a table. Each run of entries, after the
first two, has one bit more than the one before. -/
def baseAndExtra (base runLength : Nat) (n : Nat) : Nat × Nat :=
  if n < 2 * runLength then (base + n, 0)
  else
    let extra := n / runLength - 1
    (base + ((runLength + n % runLength) <<< extra), extra)

/-- Reads the length of a repetition from its symbol on. -/
def readLength? (bits : Bits) (symbol : Nat) : Option (Nat × Bits) :=
  if symbol = 285 then some (258, bits)
  else if symbol < 285 then do
    let (base, extra) := baseAndExtra 3 4 (symbol - 257)
    let (more, bits) ← bits.number? extra
    return (base + more, bits)
  else none

/-- Reads how far back a repetition begins. -/
def readDistance? (bits : Bits) (distances : Code) : Option (Nat × Bits) := do
  let (symbol, bits) ← distances.read? bits
  if symbol < 30 then
    let (base, extra) := baseAndExtra 1 2 symbol
    let (more, bits) ← bits.number? extra
    return (base + more, bits)
  else none

/-- Repeats `count` bytes, one by one, from `distance` back. -/
def repeatBytes (out : Array UInt8) (distance : Nat) : (count : Nat) → Array UInt8
  | 0 => out
  | count + 1 => repeatBytes (out.push (out[out.size - distance]?.getD 0)) distance count

/-- Reads symbols up to the end of the block. A symbol takes at least one bit, which bounds their
number. -/
def readSymbols? (literals distances : Code) :
    (fuel : Nat) → Bits → Array UInt8 → Option (Array UInt8 × Bits)
  | 0, _, _ => none
  | fuel + 1, bits, out => do
    let (symbol, bits) ← literals.read? bits
    if symbol < 256 then
      readSymbols? literals distances fuel bits (out.push (.ofNat symbol))
    else if symbol = 256 then return (out, bits)
    else
      let (length, bits) ← readLength? bits symbol
      let (distance, bits) ← readDistance? bits distances
      guard (distance ≤ out.size)
      readSymbols? literals distances fuel bits (repeatBytes out distance length)

/-! ## Codes -/

/-- The lengths of the code for bytes and repetitions that needs no description. -/
def fixedLengths : List Nat :=
  List.replicate 144 8 ++ List.replicate 112 9 ++ List.replicate 24 7 ++ List.replicate 8 8

/-- The order in which the lengths of the code for lengths are written. -/
def lengthOrder : List Nat :=
  [16, 17, 18, 0, 8, 7, 9, 6, 10, 5, 11, 4, 12, 3, 13, 2, 14, 1, 15]

/-- Reads `count` numbers of three bits. -/
def readTriples? (bits : Bits) : (count : Nat) → Option (List Nat × Bits)
  | 0 => some ([], bits)
  | count + 1 => do
    let (n, bits) ← bits.number? 3
    let (rest, bits) ← readTriples? bits count
    return (n :: rest, bits)

/-- Reads code lengths until there are `count` of them; `before` are those read so far, the last
one first. -/
def readLengths? (code : Code) (count : Nat) :
    (fuel : Nat) → Bits → (before : List Nat) → Option (List Nat × Bits)
  | 0, _, _ => none
  | fuel + 1, bits, before =>
    if before.length = count then some (before.reverse, bits)
    else if count < before.length then none
    else do
      let (symbol, bits) ← code.read? bits
      if symbol < 16 then readLengths? code count fuel bits (symbol :: before)
      else
        let (length, base, extra) ←
          match symbol with
          | 16 => before.head?.map fun last => (last, 3, 2)
          | 17 => some (0, 3, 3)
          | _ => some (0, 11, 7)
        let (more, bits) ← bits.number? extra
        readLengths? code count fuel bits (List.replicate (base + more) length ++ before)

/-- Reads the description of the codes of a block. -/
def readCodes? (bits : Bits) : Option (Code × Code × Bits) := do
  let (literals, bits) ← bits.number? 5
  let (distances, bits) ← bits.number? 5
  let (lengths, bits) ← bits.number? 4
  let literals := literals + 257
  let distances := distances + 1
  guard (literals ≤ 286)
  let (triples, bits) ← readTriples? bits (lengths + 4)
  let lengths := (List.range 19).map fun n =>
    ((lengthOrder.zip triples).lookup n).getD 0
  let code ← Code.complete? lengths
  let (lengths, bits) ← readLengths? code (literals + distances) (literals + distances + 1) bits []
  let distanceLengths := lengths.drop literals
  let distanceCode :=
    -- a lone distance, or none, does not use all bit strings
    if distanceLengths.countP (0 < ·) ≤ 1 then some (Code.ofLengths distanceLengths)
    else Code.complete? distanceLengths
  return (← Code.complete? (lengths.take literals), ← distanceCode, bits)

/-! ## Blocks -/

/-- Reads a block of plain bytes. Their number is followed by its complement. -/
def readPlain? (bytes : Bytes) (out : Array UInt8) : Option (Array UInt8 × Bits) :=
  match bytes with
  | a :: b :: c :: d :: rest =>
    let length := Bytes.toLittleEndian [a, b]
    if Bytes.toLittleEndian [c, d] = 65535 - length ∧ length ≤ rest.length then
      some (out ++ rest.take length, ⟨[], rest.drop length⟩)
    else none
  | _ => none

/-- Reads one block, and whether it is the last one. -/
def readBlock? (bits : Bits) (out : Array UInt8) : Option (Bool × Array UInt8 × Bits) := do
  let (last, bits) ← bits.next?
  let (kind, bits) ← bits.number? 2
  let (out, bits) ←
    match kind with
    | 0 => readPlain? bits.bytes out
    | 1 =>
      readSymbols? (Code.ofLengths fixedLengths) (Code.ofLengths (List.replicate 32 5))
        bits.length bits out
    | 2 => do
      let (literals, distances, bits) ← readCodes? bits
      readSymbols? literals distances bits.length bits out
    | _ => none
  return (last, out, bits)

/-- Reads blocks up to the last one. -/
def readBlocks? : (fuel : Nat) → Bits → Array UInt8 → Option (Array UInt8)
  | 0, _, _ => none
  | fuel + 1, bits, out => do
    let (last, out, bits) ← readBlock? bits out
    if last then return out
    readBlocks? fuel bits out

/-- The data that were compressed. A block takes more than one bit, which bounds their number. -/
def inflate? (bytes : Bytes) : Option Bytes :=
  (readBlocks? (8 * bytes.length) ⟨[], bytes⟩ #[]).map Array.toList

/-- The most bytes of a plain block. -/
def plainLimit : Nat := 65535

/-- Writes data in plain blocks. -/
def store (data : Bytes) : Bytes :=
  let length := min plainLimit data.length
  let isLast := data.length ≤ plainLimit
  (if isLast then 1 else 0) :: Bytes.littleEndian 2 length ++
    Bytes.littleEndian 2 (65535 - length) ++ data.take plainLimit ++
      if isLast then [] else store (data.drop plainLimit)
termination_by data.length
decreasing_by
  simp only [List.length_drop]
  simp only [isLast, plainLimit, Nat.not_le] at *
  omega

end StatusPanel.Deflate
