import StatusPanel.Deflate.Inflation
import StatusPanel.Picture.Basic
import StatusPanel.Png.Chunk
import StatusPanel.Png.Filter

/-!
# Reading picture files

A file is read up to the chunk after the pixels. Pixels may be shades of gray, colours, or numbers
of colours in a palette, and shades and colours of one byte may have an opacity.
-/

namespace StatusPanel.Png

/-- What the samples of a pixel are. -/
inductive ColorType where
  | gray (depth : Nat)
  | rgb
  | indexed (depth : Nat)
  | grayAlpha
  | rgba
  deriving DecidableEq

namespace ColorType

/-- The kind of pixel with a number and a depth of its samples. -/
def ofNumbers? (number depth : Nat) : Option ColorType :=
  match number with
  | 0 => if depth ∈ [1, 2, 4, 8] then some (.gray depth) else none
  | 2 => if depth = 8 then some .rgb else none
  | 3 => if depth ∈ [1, 2, 4, 8] then some (.indexed depth) else none
  | 4 => if depth = 8 then some .grayAlpha else none
  | 6 => if depth = 8 then some .rgba else none
  | _ => none

/-- The bits of a pixel. -/
def bits : ColorType → Nat
  | .gray depth => depth
  | .rgb => 24
  | .indexed depth => depth
  | .grayAlpha => 16
  | .rgba => 32

/-- Are pixels numbers of colours? -/
def needsPalette : ColorType → Bool
  | .indexed _ => true
  | _ => false

/-- The bytes of a row. -/
def rowLength (t : ColorType) (width : Nat) : Nat :=
  (width * t.bits + 7) / 8

/-- How far apart the bytes of neighbouring pixels are. -/
def stride (t : ColorType) : Nat :=
  max 1 (t.bits / 8)

/-- The colours of a palette. -/
def colors : Bytes → List Color
  | r :: g :: b :: rest => ⟨r, g, b, 255⟩ :: colors rest
  | _ => []

/-- The pixel of a row in a column. A number without a colour is black. -/
def pixel (t : ColorType) (palette : Array Color) (row : Array UInt8) (column : Nat) : Color :=
  let byte (i : Nat) : UInt8 := row[i]?.getD 0
  let small (depth : Nat) : Nat :=
    let place := column * depth
    (byte (place / 8)).toNat >>> (8 - depth - place % 8) % (1 <<< depth)
  match t with
  | .gray depth =>
    let shade : UInt8 := .ofNat (small depth * (255 / ((1 <<< depth) - 1)))
    ⟨shade, shade, shade, 255⟩
  | .rgb => ⟨byte (3 * column), byte (3 * column + 1), byte (3 * column + 2), 255⟩
  | .indexed depth => palette[small depth]?.getD .ink
  | .grayAlpha =>
    let shade := byte (2 * column)
    ⟨shade, shade, shade, byte (2 * column + 1)⟩
  | .rgba =>
    ⟨byte (4 * column), byte (4 * column + 1), byte (4 * column + 2), byte (4 * column + 3)⟩

end ColorType

/-- The measures of a picture. -/
structure Header where
  width : Nat
  height : Nat
  color : ColorType

/-- Reads the measures. Only pictures that are stored row by row are read. -/
def readHeader (data : Bytes) : Except Fault Header :=
  match data with
  | [a, b, c, d, e, f, g, h, depth, color, compression, filter, interlace] =>
    let width := Bytes.toBigEndian [a, b, c, d]
    let height := Bytes.toBigEndian [e, f, g, h]
    match ColorType.ofNumbers? color.toNat depth.toNat with
    | none => broken "no such kind of pixel"
    | some t =>
      if width = 0 ∨ height = 0 then broken "the picture is empty"
      else if compression ≠ 0 ∨ filter ≠ 0 ∨ interlace ≠ 0 then broken "no such order of pixels"
      else .ok ⟨width, height, t⟩
  | _ => broken "the measures are too short or too long"

/-- Reads the chunks of pixels from the first one on, up to the head of another chunk. -/
def readPixels (length : Nat) (bytes : Bytes) : Except Fault Bytes :=
  match h : readBody length Chunk.image bytes with
  | .error fault => .error fault
  | .ok (data, rest) =>
    match h' : readHead rest with
    | .error fault => .error fault
    | .ok (next, name, after) =>
      if name = Chunk.image then
        have : after.length < bytes.length := by
          have h₁ := length_readBody h
          have h₂ := length_readHead h'
          omega
        (readPixels next after).map fun more => data ++ more
      else .ok data
termination_by bytes.length

/-- The palette, if there is one, and the pixels. Other chunks in front of them are passed over. -/
def readChunks (palette : Option Bytes) (bytes : Bytes) :
    Except Fault (Option Bytes × Bytes) :=
  match h : readHead bytes with
  | .error fault => .error fault
  | .ok (length, name, rest) =>
    if name = Chunk.image then (readPixels length rest).map fun data => (palette, data)
    else if name = Chunk.finish then broken "there are no pixels"
    else
      match h' : readBody length name rest with
      | .error fault => .error fault
      | .ok (data, after) =>
        have : after.length < bytes.length := by
          have h₁ := length_readHead h
          have h₂ := length_readBody h'
          omega
        readChunks (if name = Chunk.palette then some data else palette) after
termination_by bytes.length

/-- What was compressed, after the two bytes that say how. -/
def decompress? (data : Bytes) : Option Bytes :=
  match data with
  | kind :: check :: rest =>
    if kind.toNat % 16 = 8 ∧ kind.toNat / 16 ≤ 7 ∧ check.toNat / 32 % 2 = 0 ∧
        (256 * kind.toNat + check.toNat) % 31 = 0 then
      Deflate.inflate? rest
    else none
  | _ => none

theorem length_flatten_uniform {α : Type} (n : Nat) (rows : List (List α))
    (h : ∀ row ∈ rows, row.length = n) : rows.flatten.length = n * rows.length := by
  induction rows with
  | nil => simp
  | cons row rest ih =>
    rw [List.flatten_cons, List.length_append, h row (by simp),
      ih fun r hr => h r (by simp [hr]), List.length_cons, Nat.mul_add, Nat.add_comm, Nat.mul_one]

/-- A picture of the given rows. -/
def ofRows (width : Nat) (rows : List (List Color)) (h : ∀ row ∈ rows, row.length = width) :
    Picture :=
  { width, height := rows.length, pixels := rows.flatten.toArray
    size_pixels := by
      rw [List.size_toArray, length_flatten_uniform width rows h] }

/-- The picture of a file. -/
def read (file : Bytes) : Except Fault Picture := do
  if file.take 8 ≠ signature then
    broken "the file is no picture"
  else
    let (length, name, rest) ← readHead (file.drop 8)
    if name ≠ Chunk.header then
      broken "the measures are missing"
    else
      let (data, rest) ← readBody length name rest
      let header ← readHeader data
      let (palette, data) ← readChunks none rest
      if header.color.needsPalette && palette.isNone then
        broken "the palette is missing"
      else
        let palette := (ColorType.colors (palette.getD [])).toArray
        let some data := decompress? data | broken "the pixels cannot be decompressed"
        let some rows := readRows? (header.color.rowLength header.width) header.color.stride #[]
          data header.height | broken "there are too few pixels"
        .ok (ofRows header.width
          (rows.map fun row =>
            (List.range header.width).map (header.color.pixel palette row))
          (by simp))

end StatusPanel.Png
