import StatusPanel.Surface
import StatusPanel.Document.Resolution

/-!
# Painting documents

Each widget makes its marks on a surface, in the order of the document. Nothing is painted before
all references are resolved, so a document with a bad reference leaves the surface as it was.
-/

namespace StatusPanel

variable {σ : Type} [Surface σ]

/-- Paints a label with its text: the plate, if there is one, and the text on it. -/
def Label.paint (l : Label) (style : TextStyle) (text : String) (surface : σ) : σ :=
  let placement := l.place (Surface.measureText surface style text)
  let surface :=
    match placement.plate with
    | some plate => Surface.fillRect surface plate .ink
    | none => surface
  Surface.drawText surface style placement.origin placement.color text

/-- Paints a gauge: the track, and what is blank of it. -/
def Gauge.paint (g : Gauge) (progress : Single) (surface : σ) : σ :=
  let surface := Surface.fillRect surface g.track .ink
  Surface.fillRect surface (Gauge.blank g.track progress) .paper

/-- Paints a widget with its value. -/
def Resolved.paint (style : TextStyle) (surface : σ) : Resolved → σ
  | .label l text => l.paint style text surface
  | .gauge g progress => g.paint progress.convert surface

/-- Paints a document. Its outcome has the surface as it is then, also after a fault. -/
def Document.paint (d : Document) (style : TextStyle) (surface : σ) :
    EStateM.Result Fault σ Unit :=
  match d.resolveAll with
  | .error fault => .error fault surface
  | .ok widgets => .ok () (widgets.foldl (Resolved.paint style) surface)

end StatusPanel
