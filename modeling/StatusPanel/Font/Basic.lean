import StatusPanel.Fault
import StatusPanel.Font.CharacterMap
import StatusPanel.Font.Kerning
import StatusPanel.Font.Outline

/-!
# Fonts

A font is what is read from a TrueType file: its metrics, its character map, its kerning and the
outlines of its glyphs. The header, the horizontal header and the profile have to be there; a
missing or malformed table of another kind is as if it were empty. Outlines are read from the table
`glyf` alone: a face that keeps them elsewhere, as `OTTO` faces do, is a font of blank glyphs.
-/

namespace StatusPanel

/-- A font, all its measures in font units. -/
structure Font where
  unitsPerEm : Nat
  ascender : Int
  descender : Int
  glyphCount : Nat
  /-- Advances of the first glyphs; the last one serves the rest. -/
  advances : Array Nat
  characters : Font.CharacterMap
  kerning : Font.Kerning
  glyphs : Font.GlyphTable

namespace Font

/-- A font whose characters have neither ink nor advance. -/
def inkless : Font where
  unitsPerEm := 1000
  ascender := 800
  descender := -200
  glyphCount := 1
  advances := #[]
  characters := []
  kerning := []
  glyphs := ⟨#[], #[]⟩

/-- The ascender and the descender of the system metrics table: those meant for typesetting, and
those of the window system. -/
structure SystemMetrics where
  preferred : Bool
  typoAscender : Int
  typoDescender : Int
  winAscender : Int
  winDescender : Int

/-- The least size of the system metrics table in a version. -/
def systemMetricsSize? : Nat → Option Nat
  | 0 => some 78
  | 1 => some 86
  | 2 => some 96
  | 3 => some 96
  | 4 => some 96
  | 5 => some 100
  | _ => none

/-- Reads the system metrics. -/
def readSystemMetrics? (t : Table) : Option SystemMetrics := do
  let version ← t.word? 0
  guard ((← systemMetricsSize? version) ≤ t.size)
  return {
    preferred := 4 ≤ version && (← t.word? 62) / 128 % 2 = 1
    typoAscender := ← t.short? 68
    typoDescender := ← t.short? 70
    winAscender := ← t.short? 74
    winDescender := -(← t.short? 76) }

/-- The first of three measures that is not zero. -/
def firstNonzero (a b c : Int) : Int :=
  if a ≠ 0 then a else if b ≠ 0 then b else c

/-- Reads the advances: `count` of them, four bytes apart. -/
def readAdvances? (t : Table) (count : Nat) : Option (Array Nat) := do
  guard (4 * count ≤ t.size)
  let advances ← (List.range count).mapM fun i => t.word? (4 * i)
  return advances.toArray

/-- Reads a font file. -/
def read? (file : Table) : Option Font := do
  let tables ← Directory.read? file
  let header ← tables.table? "head"
  guard (54 ≤ header.size)
  let unitsPerEm ← header.word? 18
  guard (16 ≤ unitsPerEm ∧ unitsPerEm ≤ 16384)
  let locationFormat ← header.word? 50
  guard (locationFormat ≤ 1)
  let horizontal ← tables.table? "hhea"
  guard (36 ≤ horizontal.size)
  let ascender ← horizontal.short? 4
  let descender ← horizontal.short? 6
  let advanceCount ← horizontal.word? 34
  let profile ← tables.table? "maxp"
  let version ← profile.long? 0
  guard (version = 0x00005000 ∨ version = 0x00010000)
  let glyphCount ← profile.word? 4
  guard (glyphCount ≠ 0)
  let system := (tables.table? "OS/2").bind readSystemMetrics?
  let (ascender, descender) :=
    match system with
    | none => (ascender, descender)
    | some m =>
      if m.preferred then (m.typoAscender, m.typoDescender)
      else
        (firstNonzero ascender m.typoAscender m.winAscender,
          firstNonzero descender m.typoDescender m.winDescender)
  let glyphs :=
    match tables.table? "loca", tables.table? "glyf" with
    | some locations, some data => GlyphTable.read locations data (locationFormat = 1) glyphCount
    | _, _ => ⟨#[], #[]⟩
  return {
    unitsPerEm, ascender, descender, glyphCount, glyphs
    advances := ((tables.table? "hmtx").bind fun t => readAdvances? t advanceCount).getD #[]
    characters := ((tables.table? "cmap").map CharacterMap.read).getD []
    kerning := ((tables.table? "kern").map Kerning.read).getD [] }

/-- What is said of a file that is no font. -/
def unreadable : String :=
  "Failed to parse font: InvalidFont"

/-- Reads a font file, or says that it is none. -/
def read (file : Bytes) : Except Fault Font :=
  match read? file.toArray with
  | some f => .ok f
  | none => .error (.font unreadable)

/-- How far the pen moves after a glyph, in font units. -/
def advanceUnits (f : Font) (glyph : Nat) : Nat :=
  if glyph < max f.glyphCount f.advances.size then
    (f.advances[glyph]? <|> f.advances.back?).getD 0
  else 0

/-- The factor from font units to pixels at a size: the size stands for one em. It is taken by way
of the height between descender and ascender, which rounds twice more. -/
def scale (f : Font) (size : Single) : Single :=
  let height : Single := .ofInt f.ascender - .ofInt f.descender
  size * height / .ofNat f.unitsPerEm / height

end Font

end StatusPanel
