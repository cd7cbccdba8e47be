import StatusPanel.Font.Basic
import StatusPanel.Widget.Placement

/-!
# Setting text

The glyphs of a text stand one after the other along the baseline, each moved by its kerning with
the one before. The extents of a text are measured with the pen at zero, from the boxes of pixels
that its glyphs may ink.
-/

namespace StatusPanel

/-- A font at a size. -/
structure TextStyle where
  font : Font
  size : Single

namespace TextStyle

/-- The factor from font units to pixels. -/
def scale (s : TextStyle) : Single :=
  s.font.scale s.size

/-- The kerning of a glyph after the one before, if there is one. -/
def kern (s : TextStyle) (before : Option Nat) (glyph : Nat) (pen : Single) : Single :=
  match before with
  | some left => pen + s.scale * .ofInt (s.font.kerning.distance left glyph)
  | none => pen

/-- How far the pen moves after a glyph. -/
def advance (s : TextStyle) (glyph : Nat) : Single :=
  s.scale * .ofNat (s.font.advanceUnits glyph)

/-- The pen's places at the glyphs of a text, and where it ends. -/
def pens (s : TextStyle) (before : Option Nat) (pen : Single) :
    List Nat → List (Nat × Single) × Single
  | [] => ([], pen)
  | glyph :: rest =>
    let place := s.kern before glyph pen
    let (places, last) := s.pens (some glyph) (place + s.advance glyph) rest
    ((glyph, place) :: places, last)

/-- The glyphs of a text. -/
def glyphs (s : TextStyle) (text : String) : List Nat :=
  text.toList.map s.font.characters.glyph

end TextStyle

/-- A glyph at its place. -/
structure PlacedGlyph where
  glyph : Nat
  place : Point

namespace TextStyle

/-- The glyphs of a text that begins at `origin`. -/
def layout (s : TextStyle) (origin : Point) (text : String) : List PlacedGlyph :=
  (s.pens none origin.x (s.glyphs text)).1.map fun (glyph, x) => ⟨glyph, ⟨x, origin.y⟩⟩

/-- How far the pen moves along a text that begins at `origin`. -/
def advanceOf (s : TextStyle) (origin : Point) (text : String) : Single :=
  (s.pens none origin.x (s.glyphs text)).2 - origin.x

end TextStyle

/-- A box of pixels. Its edges are whole numbers, unless they are infinite or NaN. -/
structure PixelBox where
  left : Single
  top : Single
  right : Single
  bottom : Single

/-- The box of the pixels that an outline may ink. The fraction of the place takes part in the
rounding, its whole part is added afterwards. -/
def Font.Bounds.pixelBox (b : Font.Bounds) (scale : Single) (place : Point) : PixelBox :=
  let low (units : Int) (factor fraction whole : Single) : Single :=
    (.ofInt units * factor + fraction).floor + whole
  let high (units : Int) (factor fraction whole : Single) : Single :=
    (.ofInt units * factor + fraction).ceil + whole
  { left := low b.left scale place.x.fract place.x.trunc
    top := low b.top (-scale) place.y.fract place.y.trunc
    right := high b.right scale place.x.fract place.x.trunc
    bottom := high b.bottom (-scale) place.y.fract place.y.trunc }

/-- The least box around two boxes. -/
def PixelBox.join (a b : PixelBox) : PixelBox :=
  { left := a.left.least b.left
    top := a.top.least b.top
    right := a.right.greatest b.right
    bottom := a.bottom.greatest b.bottom }

namespace TextStyle

/-- The boxes of the glyphs that have an outline. -/
def inkBoxes (s : TextStyle) (origin : Point) (text : String) : List PixelBox :=
  (s.layout origin text).filterMap fun g =>
    (s.font.glyphs.outline? g.glyph).map fun o => o.bounds.pixelBox s.scale g.place

/-- The extents of a text. -/
def measure (s : TextStyle) (text : String) : Extents :=
  let advance := s.advanceOf {} text
  match s.inkBoxes {} text with
  | [] => { advance }
  | first :: rest =>
    let box := rest.foldl PixelBox.join first
    { xBearing := box.left
      yBearing := box.top
      width := box.right - box.left
      height := box.bottom - box.top
      advance }

end TextStyle

end StatusPanel
