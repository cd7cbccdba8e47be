import StatusPanel.Floating.Integer

/-!
# Geometry and colours

Coordinates are single-precision numbers, `x` growing to the right and `y` downwards. A rectangle's
far edges are rounded sums, and every test on them uses the rounded values.
-/

namespace StatusPanel

/-- A place. -/
structure Point where
  x : Single := 0
  y : Single := 0
  deriving DecidableEq, Inhabited

/-- A width and a height. -/
structure Size where
  width : Single := 0
  height : Single := 0
  deriving DecidableEq, Inhabited

/-- A rectangle given by its top left corner. -/
structure Rect where
  x : Single
  y : Single
  width : Single
  height : Single
  deriving DecidableEq, Inhabited

namespace Rect

def right (r : Rect) : Single :=
  r.x + r.width

def bottom (r : Rect) : Single :=
  r.y + r.height

/-- A rectangle without positive width and height covers nothing; NaN is not positive. -/
def isEmpty (r : Rect) : Bool :=
  !(r.width.isPositive && r.height.isPositive)

end Rect

/-- A colour with its opacity. -/
structure Color where
  red : UInt8
  green : UInt8
  blue : UInt8
  alpha : UInt8
  deriving DecidableEq, Inhabited

/-- The colour of what is drawn. -/
def Color.ink : Color := ⟨0, 0, 0, 255⟩

/-- The colour of the ground. -/
def Color.paper : Color := ⟨255, 255, 255, 255⟩

end StatusPanel
