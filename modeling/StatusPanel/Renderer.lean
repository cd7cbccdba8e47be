import StatusPanel.Document.Reader
import StatusPanel.Font.Shelf
import StatusPanel.Picture.Footprint
import StatusPanel.Settings
import StatusPanel.Widget.Painting

/-!
# Rendering

A renderer draws documents on pictures of one size, with one font at one size. Its settings make
sense, and its font could be read when it was made. Nothing but the shelf of fonts goes over from
one document to the next.
-/

namespace StatusPanel

/-- Where a renderer has its font from. -/
inductive FontOrigin where
  | memory (font : Font)
  | file (path : String)

/-- What is needed to draw documents. -/
structure Renderer where
  settings : Settings
  valid : settings.validate = .ok ()
  origin : FontOrigin
  shelf : Shelf

namespace Renderer

/-- A renderer with a font that is there already. -/
def ofFont (settings : Settings) (font : Font) : Except Fault Renderer :=
  match h : settings.validate with
  | .error fault => .error fault
  | .ok () => .ok ⟨settings, h, .memory font, ⟨false, []⟩⟩

/-- A renderer with the font of the settings, whose file has been read. -/
def ofFile (settings : Settings) (contents : Except String Bytes) :
    Except Fault (Renderer × Event) :=
  match h : settings.validate with
  | .error fault => .error fault
  | .ok () =>
    (Shelf.receive ⟨settings.reloadFont, []⟩ settings.fontPath contents).map
      fun (_, shelf, event) => (⟨settings, h, .file settings.fontPath, shelf⟩, event)

/-- A renderer with the font of the settings. -/
def load (files : Files) (settings : Settings) : Except Fault Renderer :=
  (ofFile settings ((files.read settings.fontPath).mapError FileFault.text)).map (·.1)

/-- A font that is ready, or the file that has to be read for it. -/
inductive FontNeed where
  | ready (font : Font)
  | file (path : String)

/-- What has to be read before a document can be drawn. -/
def fontNeed (r : Renderer) : FontNeed :=
  match r.origin with
  | .memory font => .ready font
  | .file path =>
    match r.shelf.ready? path with
    | some shelved => .ready shelved.font
    | none => .file path

/-- The font in a file that was read, the renderer that has it on its shelf, and what there is to
tell. -/
def receive (r : Renderer) (path : String) (contents : Except String Bytes) :
    Except Fault (Font × Renderer × Event) :=
  (r.shelf.receive path contents).map fun (shelved, shelf, event) =>
    (shelved.font, { r with shelf }, event)

/-- The picture of a document. -/
def draw (r : Renderer) (font : Font) (d : Document) : Except Fault Picture :=
  match d.paint ⟨font, r.settings.fontSize⟩ (Picture.blank r.settings.width r.settings.height) with
  | .ok () picture => .ok picture
  | .error fault _ => .error fault

/-- The picture of a document, drawn with the font that is read from a file if need be. -/
def render (r : Renderer) (files : Files) (d : Document) : Except Fault Picture × Renderer :=
  match r.fontNeed with
  | .ready font => (r.draw font d, r)
  | .file path =>
    match r.receive path ((files.read path).mapError FileFault.text) with
    | .ok (font, r, _) => (r.draw font d, r)
    | .error fault => (.error fault, r)

/-- The picture of a document that is yet to be read. -/
def renderPayload (r : Renderer) (files : Files) (payload : Bytes) :
    Except Fault Picture × Renderer :=
  match Document.read payload with
  | .error fault => (.error fault, r)
  | .ok d => r.render files d

end Renderer

end StatusPanel
