import StatusPanel.Font.Text

/-!
# Surfaces

What can be drawn on: a surface takes filled rectangles and texts. The plainest surface is a
drawing, which records the marks that are made on it; any other surface can have a drawing's marks
made on it again (`Drawing.replay`).
-/

namespace StatusPanel

/-- Something to draw on. -/
class Surface (σ : Type) where
  fillRect : σ → Rect → Color → σ
  /-- Measures a text as `drawText` sets it. -/
  measureText : σ → TextStyle → String → Extents := fun _ style text => style.measure text
  drawText : σ → TextStyle → Point → Color → String → σ

/-- The surfaces that leave measuring to the font, whatever has been drawn on them. -/
class FontMeasured (σ : Type) [Surface σ] : Prop where
  measureText_eq (surface : σ) (style : TextStyle) (text : String) :
    Surface.measureText surface style text = style.measure text

/-- A mark on a drawing. -/
inductive Mark where
  | fill (rect : Rect) (color : Color)
  | text (style : TextStyle) (origin : Point) (color : Color) (words : String)

/-- Makes a mark on a surface. -/
def Mark.draw {σ : Type} [Surface σ] (surface : σ) : Mark → σ
  | .fill rect color => Surface.fillRect surface rect color
  | .text style origin color words => Surface.drawText surface style origin color words

/-- The marks made so far, in order. -/
structure Drawing where
  marks : List Mark := []

namespace Drawing

instance : Surface Drawing where
  fillRect d rect color := ⟨d.marks ++ [.fill rect color]⟩
  drawText d style origin color words := ⟨d.marks ++ [.text style origin color words]⟩

instance : FontMeasured Drawing where
  measureText_eq _ _ _ := rfl

theorem marks_draw (d : Drawing) (m : Mark) : (m.draw d).marks = d.marks ++ [m] := by
  cases m <;> rfl

/-- Makes the marks of a drawing on a surface. -/
def replay {σ : Type} [Surface σ] (d : Drawing) (surface : σ) : σ :=
  d.marks.foldl (fun s m => m.draw s) surface

end Drawing

end StatusPanel
