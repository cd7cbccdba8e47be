import StatusPanel.Bytes

/-!
# Font tables

A font file is a directory of tables; inside a table, numbers stand at fixed offsets with their
most significant byte first. Reading past the end gives nothing.
-/

namespace StatusPanel.Font

/-- The bytes of a table. -/
abbrev Table := Array UInt8

namespace Table

variable (t : Table)

def byte? (offset : Nat) : Option Nat :=
  t[offset]?.map UInt8.toNat

/-- The unsigned 16-bit number at an offset. -/
def word? (offset : Nat) : Option Nat := do
  let high ← t.byte? offset
  let low ← t.byte? (offset + 1)
  return 256 * high + low

/-- The unsigned 32-bit number at an offset. -/
def long? (offset : Nat) : Option Nat := do
  let high ← t.word? offset
  let low ← t.word? (offset + 2)
  return 65536 * high + low

/-- A number of `modulus` values as one that may be negative. -/
def toSigned (modulus n : Nat) : Int :=
  if 2 * n < modulus then n else n - modulus

/-- The signed 8-bit number at an offset. -/
def signedByte? (offset : Nat) : Option Int :=
  (t.byte? offset).map (toSigned 256)

/-- The signed 16-bit number at an offset. -/
def short? (offset : Nat) : Option Int :=
  (t.word? offset).map (toSigned 65536)

/-- The bytes from `start` up to `stop`, if they are all there. -/
def slice? (start stop : Nat) : Option Table :=
  if start ≤ stop ∧ stop ≤ t.size then some (t.extract start stop) else none

/-- The bytes from `start` on. -/
def from? (start : Nat) : Option Table :=
  t.slice? start t.size

end Table

/-- Where `bisect` looks for an element: the last of `size` elements from `base` on that is not
greater than the one sought, if there is one. -/
def bisect (order : Nat → Ordering) (base size : Nat) : Nat :=
  if size ≤ 1 then base
  else
    let half := size / 2
    bisect order (if order (base + half) = .gt then base else base + half) (size - half)
termination_by size
decreasing_by omega

/-- The index of an element that is equal to the one sought, in a sorted table of `count`
elements; `order` compares the element at an index with the one sought. -/
def find? (order : Nat → Ordering) (count : Nat) : Option Nat :=
  if count = 0 then none
  else
    let i := bisect order 0 count
    if order i = .eq then some i else none

/-- A four-letter name of a table. -/
def tag (name : String) : Nat :=
  Bytes.toBigEndian (Bytes.ofString name)

/-- The named tables of a font file. A later entry takes the place of an earlier one, and an entry
that points outside the file stands for a table that is not there. -/
structure Directory where
  entries : List (Nat × Option Table)

namespace Directory

/-- The table of the given name. -/
def table? (d : Directory) (name : String) : Option Table :=
  (d.entries.lookup (tag name)).join

/-- The kinds of face that are read: by their first four bytes. Of an `OTTO` face, whose outlines
are in a table of another kind than `glyf`, no outline is read: its texts have their advances but no
ink. -/
def isFace (signature : Nat) : Bool :=
  signature = 0x00010000 || signature = tag "true" || signature = tag "OTTO"

/-- Reads the directory of the face at an offset of the file. The last entry comes first. -/
def readAt? (file : Table) (offset : Nat) : Option Directory := do
  guard (isFace (← file.long? offset))
  let count ← file.word? (offset + 4)
  let records := offset + 12
  guard (records + 16 * count ≤ file.size)
  let entries ← (List.range count).mapM fun i => do
    let record := records + 16 * i
    let name ← file.long? record
    let start ← file.long? (record + 8)
    let length ← file.long? (record + 12)
    return (name, file.slice? start (start + length))
  return ⟨entries.reverse⟩

/-- Reads the directory of a font file, or of the first face of a collection. -/
def read? (file : Table) : Option Directory := do
  if (← file.long? 0) = tag "ttcf" then
    let count ← file.long? 8
    guard (count ≠ 0 ∧ 12 + 4 * count ≤ file.size)
    let offset ← file.long? 12
    guard (12 + 4 * count ≤ offset)
    readAt? file offset
  else
    readAt? file 0

end Directory

end StatusPanel.Font
