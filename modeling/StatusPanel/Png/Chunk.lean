import StatusPanel.Fault
import StatusPanel.Png.Checksum

/-!
# Chunks

A picture file is a signature and a sequence of chunks. A chunk has a length, a name, its data and
a checksum of name and data.
-/

namespace StatusPanel.Png

/-- The bytes that a picture file begins with. -/
def signature : Bytes :=
  [0x89, 0x50, 0x4E, 0x47, 0x0D, 0x0A, 0x1A, 0x0A]

/-- A named piece of a file. -/
structure Chunk where
  name : Bytes
  data : Bytes

namespace Chunk

/-- The chunk of the picture's measures. -/
def header : Bytes := Bytes.ofString "IHDR"

/-- The chunk of the colours of a picture that numbers them. -/
def palette : Bytes := Bytes.ofString "PLTE"

/-- A chunk of the compressed pixels. -/
def image : Bytes := Bytes.ofString "IDAT"

/-- The last chunk. -/
def finish : Bytes := Bytes.ofString "IEND"

/-- A chunk is written with its checksum. -/
def encode (c : Chunk) : Bytes :=
  Bytes.bigEndian 4 c.data.length ++ c.name ++ c.data ++
    Bytes.bigEndian 4 (cyclicChecksum (c.name ++ c.data))

/-- Must a reader understand the chunk? Its name begins with a capital letter then. -/
def isCritical (name : Bytes) : Bool :=
  name.head?.all fun b => b.toNat / 32 % 2 = 0

end Chunk

/-- A fault of a picture file. -/
def broken {α : Type} (reason : String) : Except Fault α :=
  .error (.image reason)

/-- The length and the name of the next chunk, and what follows them. -/
def readHead (bytes : Bytes) : Except Fault (Nat × Bytes × Bytes) :=
  if 8 ≤ bytes.length then
    .ok (Bytes.toBigEndian (bytes.take 4), (bytes.drop 4).take 4, bytes.drop 8)
  else broken "the file ends before its last chunk"

/-- The data of a chunk whose length and name have been read, and what follows. The checksum of a
chunk that nobody has to understand is not looked at. -/
def readBody (length : Nat) (name bytes : Bytes) : Except Fault (Bytes × Bytes) :=
  if length + 4 ≤ bytes.length then
    let data := bytes.take length
    let rest := bytes.drop length
    if Chunk.isCritical name &&
        Bytes.toBigEndian (rest.take 4) != cyclicChecksum (name ++ data) then
      broken "a chunk's checksum is wrong"
    else .ok (data, rest.drop 4)
  else broken "the file ends inside a chunk"

theorem length_readHead {bytes rest name : Bytes} {length : Nat}
    (h : readHead bytes = .ok (length, name, rest)) : rest.length < bytes.length := by
  unfold readHead at h
  split at h
  · cases h
    simp only [List.length_drop]
    omega
  · cases h

theorem length_readBody {length : Nat} {name bytes data rest : Bytes}
    (h : readBody length name bytes = .ok (data, rest)) : rest.length < bytes.length := by
  unfold readBody at h
  split at h
  · dsimp only at h
    split at h
    · cases h
    · cases h
      simp only [List.length_drop]
      omega
  · cases h

end StatusPanel.Png
