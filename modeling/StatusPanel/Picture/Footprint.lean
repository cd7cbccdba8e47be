import StatusPanel.Font.Coverage
import StatusPanel.Picture.Basic
import StatusPanel.Surface

/-!
# Drawing on pictures

A picture is a surface. A mark has a footprint, the pixels that it colours: those whose centre lies
in a rectangle, or those that a text inks. Neither depends on what the picture shows.
-/

namespace StatusPanel

/-- The first of `limit` pixels in a line whose centre lies at `edge` or after it. -/
def firstFrom (edge : Single) (limit : Nat) : Nat :=
  min limit (edge - Font.half).ceil.toInt64.toNat

/-- A rectangle of whole pixels: its top left corner, and how many columns and rows it has. -/
structure PixelRect where
  left : Int32
  top : Int32
  width : UInt32
  height : UInt32

/-- The places in a rectangle of pixels, row by row. -/
def PixelRect.places (r : PixelRect) : List (Int × Int) :=
  (List.range r.height.toNat).flatMap fun (row : Nat) =>
    (List.range r.width.toNat).map fun (column : Nat) => (r.left.toInt + column, r.top.toInt + row)

/-- The pixels of a picture whose centres lie in a rectangle, if there are any. -/
def Rect.pixelRect? (r : Rect) (width height : Nat) : Option PixelRect :=
  if r.isEmpty then none
  else
    let left := firstFrom r.x width
    let right := firstFrom r.right width
    let top := firstFrom r.y height
    let bottom := firstFrom r.bottom height
    if right ≤ left ∨ bottom ≤ top then none
    else some ⟨.ofNat left, .ofNat top, .ofNat (right - left), .ofNat (bottom - top)⟩

/-- Those of some places that are pixels of a picture. -/
def clip (places : List (Int × Int)) (width height : Nat) : List Pixel :=
  places.filterMap fun (x, y) =>
    if 0 ≤ x ∧ x < width ∧ 0 ≤ y ∧ y < height then some (x.toNat, y.toNat) else none

/-- The pixels of a picture that a rectangle covers. -/
def Rect.footprint (r : Rect) (width height : Nat) : List Pixel :=
  match r.pixelRect? width height with
  | some pixels => clip pixels.places width height
  | none => []

/-- The pixels of a picture that a text inks. -/
def TextStyle.footprint (s : TextStyle) (origin : Point) (text : String) (width height : Nat) :
    List Pixel :=
  clip (s.inked origin text) width height

instance : Surface Picture where
  fillRect p rect color := p.paint (rect.footprint p.width p.height) color
  drawText p style origin color text :=
    p.paint (style.footprint origin text p.width p.height) color

instance : FontMeasured Picture where
  measureText_eq _ _ _ := rfl

end StatusPanel
