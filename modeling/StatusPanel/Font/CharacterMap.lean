import StatusPanel.Font.Table

/-!
# Character maps

A character map is a list of subtables, of which those for Unicode are asked one after the other.
A subtable that cannot be read ends the list.
-/

namespace StatusPanel.Font

/-- A subtable that takes code points to glyphs. -/
inductive CharacterTable where
  /-- One glyph for each of 256 codes. -/
  | bytes (glyphs : Table)
  /-- Segments of 16-bit code points; `count` of them. -/
  | segments (table : Table) (count : Nat)
  /-- A run of code points from `first` on. -/
  | run (first : Nat) (glyphs : List Nat)
  /-- Groups of code points: first, last and the glyph of the first; all code points of a group
  share that glyph if `constant`. -/
  | groups (groups : Array (Nat × Nat × Nat)) (constant : Bool)
  /-- A format without a plain mapping. -/
  | other

namespace CharacterTable

/-- Reads the segments of a table. -/
def readSegments? (t : Table) : Option CharacterTable := do
  let twice ← t.word? 6
  guard (2 ≤ twice)
  let count := twice / 2
  guard (16 + 8 * count ≤ t.size)
  return .segments t count

/-- Reads a run of glyphs. -/
def readRun? (t : Table) : Option CharacterTable := do
  let first ← t.word? 6
  let count ← t.word? 8
  let glyphs ← (List.range count).mapM fun i => t.word? (10 + 2 * i)
  return .run first glyphs

/-- Reads groups of code points. -/
def readGroups? (t : Table) (constant : Bool) : Option CharacterTable := do
  let count ← t.long? 12
  guard (16 + 12 * count ≤ t.size)
  let groups ← (List.range count).mapM fun i => do
    let group := 16 + 12 * i
    return (← t.long? group, ← t.long? (group + 4), ← t.long? (group + 8))
  return .groups groups.toArray constant

/-- Reads a subtable. -/
def read? (t : Table) : Option CharacterTable := do
  match ← t.word? 0 with
  | 0 => return .bytes (← t.slice? 6 262)
  | 4 => readSegments? t
  | 6 => readRun? t
  | 12 => readGroups? t false
  | 13 => readGroups? t true
  | 2 => return .other
  | 8 => return .other
  | 10 => return .other
  | 14 => return .other
  | _ => none

/-- Does the subtable reach past the first 65536 code points as a full map does? -/
def isFull : CharacterTable → Bool
  | .groups .. => true
  | _ => false

/-- The first segment from `low` up to `high` that ends at or after a code, and contains it. -/
def segment? (t : Table) (count code : Nat) (low high : Nat) : Option Nat :=
  if low < high then
    let middle := (low + high) / 2
    match t.word? (14 + 2 * middle), t.word? (16 + 2 * count + 2 * middle) with
    | some last, some first =>
      if last < code then segment? t count code (middle + 1) high
      else if code < first then segment? t count code low middle
      else some middle
    | _, _ => none
  else none
termination_by high - low

/-- The glyph of a code in a segment: by a shift, or by the segment's place in an array that
begins at a distance from the segment's entry. -/
def segmentGlyph? (t : Table) (count code : Nat) (i : Nat) : Option Nat := do
  let first ← t.word? (16 + 2 * count + 2 * i)
  let delta ← t.word? (16 + 4 * count + 2 * i)
  let entry := 16 + 6 * count + 2 * i
  let distance ← t.word? entry
  if distance = 0 then
    return (code + delta) % 65536
  guard (distance ≠ 65535)
  let offset := (code - first) * 2
  guard (offset < 65536)
  let glyph ← t.word? ((entry + offset + distance) % 65536)
  guard (glyph ≠ 0)
  let shifted := (glyph + delta) % 65536
  guard (shifted < 32768)
  return shifted

/-- The glyph of a code point. -/
def glyph? (table : CharacterTable) (code : Nat) : Option Nat :=
  match table with
  | .bytes glyphs => (glyphs.byte? code).filter (· ≠ 0)
  | .segments t count => do
    guard (code < 65536)
    segmentGlyph? t count code (← segment? t count code 0 count)
  | .run first glyphs => do
    guard (first ≤ code ∧ code < 65536)
    glyphs[code - first]?
  | .groups sorted constant => do
    let order (i : Nat) : Ordering :=
      match sorted[i]? with
      | some (first, last, _) => if code < first then .gt else if last < code then .lt else .eq
      | none => .gt
    let (first, _, start) ← sorted[← find? order sorted.size]?
    let glyph := if constant then start else start + code - first
    guard (glyph < 65536)
    return glyph
  | .other => none

end CharacterTable

/-- The subtables that are asked for a glyph, in order. -/
abbrev CharacterMap := List CharacterTable

namespace CharacterMap

/-- Reads the record of a subtable: the platform, the encoding and the subtable. -/
def readRecord? (t : Table) (i : Nat) : Option (Nat × Nat × CharacterTable) := do
  let record := 4 + 8 * i
  let platform ← t.word? record
  guard (platform ≤ 4)
  let encoding ← t.word? (record + 2)
  let offset ← t.long? (record + 4)
  return (platform, encoding, ← CharacterTable.read? (← t.from? offset))

/-- Is the subtable one for Unicode? -/
def isUnicode (platform encoding : Nat) (table : CharacterTable) : Bool :=
  platform = 0 || (platform = 3 && (encoding = 1 || (encoding = 10 && table.isFull)))

/-- Reads a character map. -/
def read (t : Table) : CharacterMap :=
  match t.word? 2 with
  | none => []
  | some count =>
    if t.size < 4 + 8 * count then []
    else
      let records := ((List.range count).map (readRecord? t)).takeWhile Option.isSome
      records.filterMap fun
        | some (platform, encoding, table) =>
          if isUnicode platform encoding table then some table else none
        | none => none

/-- The glyph of a character; the first glyph of the font stands for characters without one. -/
def glyph (m : CharacterMap) (c : Char) : Nat :=
  (m.findSome? fun table => table.glyph? c.toNat).getD 0

end CharacterMap

end StatusPanel.Font
