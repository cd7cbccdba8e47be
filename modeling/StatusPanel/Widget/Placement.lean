import StatusPanel.Document.Basic

/-!
# Placing widgets

The geometry of widgets, apart from any font and any picture. A label stands on its baseline; its
plate, if it is inverted, reaches up from there, while a centered text is shifted to the right and
down.
-/

namespace StatusPanel

/-- The measures of a text, relative to the pen on the baseline: the box of the pixels it may ink,
and how far the pen moves. -/
structure Extents where
  xBearing : Single := 0
  yBearing : Single := 0
  width : Single := 0
  height : Single := 0
  advance : Single := 0
  deriving DecidableEq

/-- Where a label and its text go. -/
structure Placement where
  size : Size
  plate : Option Rect
  origin : Point
  color : Color
  deriving DecidableEq

/-- Places a label whose text has the given measures. -/
def Label.place (l : Label) (e : Extents) : Placement :=
  let width := if l.size.width.equal 0 then e.advance else l.size.width
  let height := if l.size.height.equal 0 then e.height else l.size.height
  let top := l.origin.y - height
  { size := ⟨width, height⟩
    plate := if l.inverted then some ⟨l.origin.x, top, width, height⟩ else none
    origin :=
      -- whole pixels, so that glyphs stay sharp
      if l.centered then
        ⟨(l.origin.x + (width - e.advance) / 2).trunc,
         (l.origin.y + (height - e.height) / 2).trunc⟩
      else l.origin
    color := if l.centered then .paper else .ink }

/-- The share of a gauge that is used up: within `[0, 1]`, and none of it if there is no number. -/
def usedShare (progress : Single) : Single :=
  if progress.isNan then 0 else progress.clamp 0 1

/-- The part of a gauge's track that is left blank: what remains, at the right, inside a border of
one pixel. -/
def Gauge.blank (track : Rect) (progress : Single) : Rect :=
  let remaining := 1 - usedShare progress
  let inner := track.width - 2
  let width := inner * remaining
  { x := track.x + 1 + inner - width
    y := track.y + 1
    width := width
    height := track.height - 2 }

/-- The track of a gauge. -/
def Gauge.track (g : Gauge) : Rect :=
  ⟨g.origin.x, g.origin.y, g.size.width, g.size.height⟩

end StatusPanel
