import StatusPanel.Deflate.Inflation
import StatusPanel.Picture.Basic
import StatusPanel.Png.Chunk

/-!
# Writing picture files

A picture is written with red, green, blue and opacity of a pixel in a byte each. The rows are
neither filtered nor compressed, and stand in as many chunks as they need.
-/

namespace StatusPanel.Png

/-- The four bytes of a pixel. -/
def sampleBytes (c : Color) : Bytes :=
  [c.red, c.green, c.blue, c.alpha]

/-- The rows of the given width, each after the number of the filter that does nothing. -/
def rowBytes (width : Nat) (pixels : List Color) : (height : Nat) → Bytes
  | 0 => []
  | height + 1 =>
    0 :: (pixels.take width).flatMap sampleBytes ++ rowBytes width (pixels.drop width) height

/-- Compressed data between the bytes that say how and the checksum. -/
def compress (data : Bytes) : Bytes :=
  [0x78, 0x01] ++ Deflate.store data ++ Bytes.bigEndian 4 (sumChecksum data)

/-- The most bytes of a chunk. -/
def chunkLimit : Nat := 0x7FFFFFFF

/-- The chunks of compressed pixels. -/
def imageChunks (data : Bytes) : Bytes :=
  (Chunk.mk Chunk.image (data.take chunkLimit)).encode ++
    if data.length ≤ chunkLimit then [] else imageChunks (data.drop chunkLimit)
termination_by data.length
decreasing_by
  simp only [List.length_drop]
  simp only [chunkLimit, Nat.not_le] at *
  omega

/-- The measures of a picture of colours with opacity. -/
def headerBytes (width height : Nat) : Bytes :=
  Bytes.bigEndian 4 width ++ Bytes.bigEndian 4 height ++ [8, 6, 0, 0, 0]

/-- The file of a picture. -/
def write (p : Picture) : Bytes :=
  signature ++
    (Chunk.mk Chunk.header (headerBytes p.width p.height)).encode ++
    imageChunks (compress (rowBytes p.width p.pixels.toList p.height)) ++
    (Chunk.mk Chunk.finish []).encode

end StatusPanel.Png
