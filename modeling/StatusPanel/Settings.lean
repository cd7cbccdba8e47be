import StatusPanel.Decimal.Shortest
import StatusPanel.Fault

/-!
# Settings

What an operator may choose: the size of the panel, the font, and how requests are handled.
-/

namespace StatusPanel

/-- What becomes of a request that cannot be answered with a picture. -/
inductive FailurePolicy where
  /-- It ends the session. -/
  | terminate
  /-- It is answered with an empty frame. -/
  | emptyFrame
  deriving DecidableEq

/-- The settings of a renderer and of the session that it serves. -/
structure Settings where
  width : Nat := 256
  height : Nat := 64
  fontPath : String := "./metawatch_8pt.ttf"
  fontSize : Single := 8
  maxFrame : Nat := 16777216
  reloadFont : Bool := false
  policy : FailurePolicy := .terminate

namespace Settings

/-- Numbers in messages: the shortest decimal, without an exponent. -/
def numberLayout : Decimal.Layout where
  positional _ := true
  keepFraction := false
  nan := "NaN"
  infinity := "inf"

/-- Refuses settings with which nothing can be drawn. -/
def validate (s : Settings) : Except Fault Unit :=
  if s.width = 0 ∨ s.height = 0 then
    .error (.settings s!"viewport must be non-empty, got {s.width}x{s.height}")
  else if !(s.fontSize.isFinite && s.fontSize.isPositive) then
    .error (.settings
      ("font size must be a positive number, got " ++ Decimal.text numberLayout s.fontSize))
  else if s.maxFrame = 0 then
    .error (.settings "maximum frame length must be at least one byte")
  else .ok ()

end Settings

end StatusPanel
