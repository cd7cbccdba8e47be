import StatusPanel.Bytes
import StatusPanel.Fault
import StatusPanel.Floating.Integer
import StatusPanel.Picture.Basic

/-!
# Monochrome panels

A panel has segments that are lit or dark. It is driven by a row of controller chips, each of 64
columns, which take their segments in pages: a page is eight rows high, and a byte of it is a
column of eight segments, the topmost in the lowest bit.
-/

namespace StatusPanel

/-- The segments of a panel, row by row. -/
structure Panel where
  width : Nat
  height : Nat
  lit : Array Bool
  size_lit : lit.size = width * height

namespace Panel

/-- The columns of a chip. -/
def chipWidth : Nat := 64

/-- The rows of a page. -/
def pageHeight : Nat := 8

/-- The lightness of a colour, from 0 to 255. -/
def luma (c : Color) : Int :=
  let sum : Single :=
    .ofDecimal 3 1 * .ofNat c.red.toNat + .ofDecimal 59 2 * .ofNat c.green.toNat +
      .ofDecimal 11 2 * .ofNat c.blue.toNat
  sum.round.toRange 0 255

/-- Everything darker than white lights its segment. -/
def isInk (c : Color) : Bool :=
  luma c ≤ 254

/-- The panel that shows a picture. -/
def ofPicture (p : Picture) : Panel :=
  ⟨p.width, p.height, p.pixels.map isInk, by simp [p.size_pixels]⟩

/-- The number of a segment, row by row. -/
def index (p : Panel) (place : Pixel) : Nat :=
  place.2 * p.width + place.1

/-- Is a segment lit? There is none outside the panel. This is what the panel holds, whatever its
size; for what it answers see `query`. -/
def isLit (p : Panel) (place : Pixel) : Bool :=
  place.1 < p.width && place.2 < p.height && p.lit[p.index place]?.getD false

/-- What the panel answers to the question whether a segment is lit. The number of the segment is
worked out in a word of 32 bits, so that on panels of more than `2 ^ 32` segments the numbers begin
anew. -/
def query (p : Panel) (x y : UInt32) : Bool :=
  x.toNat < p.width && y.toNat < p.height && p.lit[(y * .ofNat p.width + x).toNat]?.getD false

/-- How many segments are lit. -/
def litCount (p : Panel) : Nat :=
  p.lit.countP id

/-- The number with the given binary digits, the lowest first. -/
def ofBits (bits : List Bool) : Nat :=
  bits.foldr (fun bit n => bit.toNat + 2 * n) 0

/-- The segment in a column of a chip and in a row of a page. -/
def segment (chip page column row : Nat) : Pixel :=
  (chip * chipWidth + column, page * pageHeight + row)

/-- A column of a page, as a byte. -/
def strip (p : Panel) (chip page column : Nat) : UInt8 :=
  .ofNat (ofBits ((List.range pageHeight).map fun row => p.isLit (segment chip page column row)))

/-- Does the panel split into chips and pages? -/
def splits (p : Panel) : Bool :=
  p.width % chipWidth = 0 && p.height % pageHeight = 0

/-- The columns of all pages: chip by chip, page by page. -/
def strips (p : Panel) : Bytes :=
  (List.range (p.width / chipWidth)).flatMap fun chip =>
    (List.range (p.height / pageHeight)).flatMap fun page =>
      (List.range chipWidth).map fun column => p.strip chip page column

/-- The pages of all chips, if the panel splits into them. -/
def pages (p : Panel) : Except Fault Bytes :=
  if p.splits then .ok p.strips
  else
    .error (.settings (s!"panel of {p.width}x{p.height} does not split into " ++
      s!"{chipWidth}-column chips of {pageHeight}-row pages"))

end Panel

end StatusPanel
